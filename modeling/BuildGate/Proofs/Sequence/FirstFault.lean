import Mathlib.Data.List.Forall2

namespace BuildGate

variable {α β ε : Type} {f : α → Except ε β}

theorem mapM_cons_ok (f : α → Except ε β) {x : α} {y : β} (first : f x = .ok y) (rest : List α) :
    (x :: rest).mapM f = (rest.mapM f).map (y :: ·) := by
  rw [List.mapM_cons, first]
  cases rest.mapM f <;> rfl

theorem mapM_cons_error (f : α → Except ε β) {x : α} {e : ε} (first : f x = .error e) (rest : List α) :
    (x :: rest).mapM f = .error e := by
  rw [List.mapM_cons, first]
  rfl

theorem mapM_ok_iff (xs : List α) (ys : List β) :
    xs.mapM f = .ok ys ↔ List.Forall₂ (fun x y => f x = .ok y) xs ys := by
  induction xs generalizing ys with
  | nil =>
    rw [List.mapM_nil, List.forall₂_nil_left_iff, @eq_comm _ ys]
    exact ⟨Except.ok.inj, congrArg Except.ok⟩
  | cons x rest ih =>
    rw [List.forall₂_cons_left_iff]
    cases first : f x with
    | error e => simp [mapM_cons_error f first]
    | ok y =>
      rw [mapM_cons_ok f first]
      constructor
      · intro whole
        cases later : rest.mapM f with
        | error e => simp [later, Except.map] at whole
        | ok more =>
          simp only [later, Except.map, Except.ok.injEq] at whole
          exact ⟨y, more, rfl, (ih more).1 later, whole.symm⟩
      · rintro ⟨z, more, same, further, rfl⟩
        cases same
        rw [(ih more).2 further]
        rfl

theorem mapM_error_iff (xs : List α) (e : ε) :
    xs.mapM f = .error e ↔ ∃ before x after, xs = before ++ x :: after ∧
      (∀ b ∈ before, ∃ y, f b = .ok y) ∧ f x = .error e := by
  induction xs with
  | nil => simp [pure, Except.pure]
  | cons x rest ih =>
    constructor
    · intro whole
      cases first : f x with
      | error fault =>
        rw [mapM_cons_error f first] at whole
        cases whole
        exact ⟨[], x, rest, rfl, by simp, first⟩
      | ok y =>
        rw [mapM_cons_ok f first] at whole
        cases later : rest.mapM f with
        | ok more => simp [later, Except.map] at whole
        | error fault =>
          rw [later] at whole
          cases whole
          obtain ⟨before, z, after, rfl, earlier, fails⟩ := ih.1 later
          refine ⟨x :: before, z, after, rfl, ?_, fails⟩
          intro b member
          rcases List.mem_cons.1 member with rfl | member
          · exact ⟨y, first⟩
          · exact earlier b member
    · rintro ⟨before, z, after, split, earlier, fails⟩
      cases before with
      | nil =>
        obtain ⟨rfl, rfl⟩ := List.cons.inj split
        exact mapM_cons_error f fails rest
      | cons b more =>
        obtain ⟨rfl, rfl⟩ := List.cons.inj split
        obtain ⟨y, first⟩ := earlier _ List.mem_cons_self
        have later := ih.2 ⟨more, z, after, rfl, fun c member => earlier c (List.mem_cons_of_mem _ member), fails⟩
        rw [mapM_cons_ok f first, later]
        rfl

end BuildGate
