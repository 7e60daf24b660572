import Mathlib.Data.List.Basic

namespace BuildGate.Text

variable {α : Type} {mark : α}

def ended (mark : α) (xs : List (List α)) : List α := xs.flatMap (· ++ [mark])

theorem ended_cons (x : List α) (xs : List (List α)) : ended mark (x :: xs) = x ++ mark :: ended mark xs := by
  simp [ended]

variable [DecidableEq α]

theorem append_mark_inj {x y r s : List α} (counts : x.count mark = y.count mark)
    (same : x ++ mark :: r = y ++ mark :: s) : x = y ∧ r = s := by
  rcases List.append_eq_append_iff.1 same with ⟨more, rfl, behind⟩ | ⟨more, rfl, behind⟩
  all_goals
    cases more with
    | nil => simpa [eq_comm] using behind
    | cons first more =>
      obtain ⟨rfl, -⟩ := List.cons.inj behind
      simp only [List.count_append, List.count_cons_self] at counts
      omega

theorem count_ended_of_notMem {xs : List (List α)} (free : ∀ x ∈ xs, mark ∉ x) :
    (ended mark xs).count mark = xs.length := by
  induction xs with
  | nil => rfl
  | cons x xs ih =>
    have first : x.count mark = 0 := List.count_eq_zero.2 (free x List.mem_cons_self)
    have rest := ih fun y member => free y (List.mem_cons_of_mem _ member)
    rw [ended_cons, List.count_append, List.count_cons_self, first, rest, List.length_cons, Nat.zero_add]

theorem ended_inj {xs ys : List (List α)} (counts : xs.map (List.count mark) = ys.map (List.count mark))
    (same : ended mark xs = ended mark ys) : xs = ys := by
  induction xs generalizing ys with
  | nil => exact (List.map_eq_nil_iff.1 counts.symm).symm
  | cons x xs ih =>
    cases ys with
    | nil => cases counts
    | cons y ys =>
      rw [List.map_cons, List.map_cons, List.cons.injEq] at counts
      rw [ended_cons, ended_cons] at same
      obtain ⟨rfl, rest⟩ := append_mark_inj counts.1 same
      rw [ih counts.2 rest]

theorem ended_inj_of_notMem {xs ys : List (List α)} (left : ∀ x ∈ xs, mark ∉ x) (right : ∀ y ∈ ys, mark ∉ y)
    (same : ended mark xs = ended mark ys) : xs = ys := by
  have clean : ∀ zs : List (List α), (∀ z ∈ zs, mark ∉ z) →
      zs.map (List.count mark) = List.replicate zs.length 0 := by
    intro zs free
    rw [← List.map_const']
    exact List.map_congr_left fun z member => List.count_eq_zero.2 (free z member)
  have lengths : xs.length = ys.length := by
    rw [← count_ended_of_notMem left, ← count_ended_of_notMem right, same]
  apply ended_inj _ same
  rw [clean xs left, clean ys right, lengths]

end BuildGate.Text
