import Mathlib.Data.List.Infix

namespace BuildGate

theorem map_fst_zip_sublist {α β : Type} (xs : List α) (ys : List β) :
    List.Sublist ((xs.zip ys).map Prod.fst) xs := by
  induction xs generalizing ys with
  | nil => simp
  | cons x rest ih =>
    cases ys with
    | nil => simp
    | cons y more => exact (ih more).cons_cons x

theorem getElem?_filter_zipIdx {α : Type} {p : α → Bool} {xs : List α} {x : α} {start i k : Nat}
    (found : ((xs.zipIdx start).filter fun entry => p entry.1)[k]? = some (x, i)) :
    start ≤ i ∧ xs[i - start]? = some x ∧ p x = true ∧ (xs.take (i - start)).countP p = k := by
  induction xs generalizing start k with
  | nil => simp at found
  | cons y rest ih =>
    rw [List.zipIdx_cons] at found
    -- What is found further on stands one place further from here than from the rest.
    have further : ∀ {k : Nat}, start + 1 ≤ i ∧ rest[i - (start + 1)]? = some x ∧ p x = true ∧
        (rest.take (i - (start + 1))).countP p = k →
        start ≤ i ∧ (y :: rest)[i - start]? = some x ∧ p x = true ∧
          ((y :: rest).take (i - start)).countP p = k + (if p y then 1 else 0) := by
      rintro k ⟨later, place, holds, count⟩
      have next : i - start = (i - (start + 1)) + 1 := by omega
      refine ⟨by omega, ?_, holds, ?_⟩
      · rw [next, List.getElem?_cons_succ, place]
      · rw [next, List.take_succ_cons, List.countP_cons, count]
    by_cases here : p y = true
    · rw [List.filter_cons_of_pos (by exact here)] at found
      cases k with
      | zero =>
        obtain ⟨rfl, rfl⟩ := Prod.mk.inj (Option.some.inj found)
        exact ⟨Nat.le_refl _, by simp, here, by simp⟩
      | succ k => simpa only [here, ↓reduceIte] using further (ih found)
    · rw [List.filter_cons_of_neg (by exact here)] at found
      simpa only [here, Bool.false_eq_true, ↓reduceIte, Nat.add_zero] using further (ih found)

/-- The last item of a list that has a property. -/
def Latest {α : Type} (p : α → Prop) (xs : List α) (x : α) : Prop :=
  ∃ before after, xs = before ++ x :: after ∧ p x ∧ ∀ y ∈ after, ¬ p y

theorem Latest.mem {α : Type} {p : α → Prop} {xs : List α} {x : α} (latest : Latest p xs x) : x ∈ xs ∧ p x := by
  obtain ⟨before, after, rfl, holds, -⟩ := latest
  exact ⟨by simp, holds⟩

theorem latest_map_iff {α β : Type} {f : α → β} {p : β → Prop} {xs : List α} {y : β} :
    Latest p (xs.map f) y ↔ ∃ x, f x = y ∧ Latest (fun a => p (f a)) xs x := by
  constructor
  · rintro ⟨before, after, split, holds, later⟩
    obtain ⟨as, rest, rfl, -, mapped⟩ := List.map_eq_append_iff.1 split
    obtain ⟨x, bs, rfl, rfl, rfl⟩ := List.map_eq_cons_iff.1 mapped
    exact ⟨x, rfl, as, bs, rfl, holds, fun a member => later (f a) (List.mem_map_of_mem member)⟩
  · rintro ⟨x, rfl, before, after, rfl, holds, later⟩
    refine ⟨before.map f, after.map f, by simp, holds, ?_⟩
    intro y member
    obtain ⟨a, listed, rfl⟩ := List.mem_map.1 member
    exact later a listed

theorem getLast?_filter_iff {α : Type} (p : α → Bool) (xs : List α) (x : α) :
    (xs.filter p).getLast? = some x ↔ Latest (p · = true) xs x := by
  rw [List.getLast?_eq_some_iff]
  constructor
  · rintro ⟨ys, kept⟩
    obtain ⟨before, rest, rfl, -, last⟩ := List.filter_eq_append_iff.1 kept
    obtain ⟨skipped, after, rfl, none, holds, later⟩ := List.filter_eq_cons_iff.1 last
    refine ⟨before ++ skipped, after, by simp, holds, fun y member => ?_⟩
    exact List.filter_eq_nil_iff.1 later y member
  · rintro ⟨before, after, rfl, holds, later⟩
    refine ⟨before.filter p, ?_⟩
    rw [List.filter_append, List.filter_cons, if_pos holds, List.filter_eq_nil_iff.2 later]

end BuildGate
