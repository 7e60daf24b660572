import BuildGate.Pattern.Syntax

namespace BuildGate.Pattern

def Steps (r : Nat → Nat → Prop) : Nat → Nat → Nat → Prop
  | 0, i, j => i = j
  | n + 1, i, j => ∃ k, r i k ∧ Steps r n k j

/-- The pattern matches the stretch of the text from one place to another. A bound on repetitions that is less than
    their least number counts as that number. -/
def Spans (text : List Char) : Pattern → Nat → Nat → Prop
  | empty, i, j => i = j
  | look condition, i, j => i = j ∧ ∃ p, (places none text)[i]? = some p ∧ condition.holds p = true
  | one set, i, j => j = i + 1 ∧ ∃ c, text[i]? = some c ∧ set.mem c = true
  | group _ inner, i, j => inner.Spans text i j
  | concat first second, i, j => ∃ k, first.Spans text i k ∧ second.Spans text k j
  | alternate first second, i, j => first.Spans text i j ∨ second.Spans text i j
  | repeated inner least most _, i, j =>
    ∃ n, least ≤ n ∧ (∀ bound, most = some bound → n ≤ max least bound) ∧ Steps (inner.Spans text) n i j

def MatchesWhole (p : Pattern) (text : String) : Prop := p.Spans text.toList 0 text.toList.length

variable {r : Nat → Nat → Prop}

theorem steps_add {m n i j : Nat} : Steps r (m + n) i j ↔ ∃ k, Steps r m i k ∧ Steps r n k j := by
  induction m generalizing i with
  | zero => simp [Steps]
  | succ m ih =>
    rw [Nat.add_right_comm]
    constructor
    · rintro ⟨k, first, later⟩
      obtain ⟨l, left, right⟩ := ih.1 later
      exact ⟨l, ⟨k, first, left⟩, right⟩
    · rintro ⟨l, ⟨k, first, left⟩, right⟩
      exact ⟨k, first, ih.2 ⟨l, left, right⟩⟩

namespace Places

def Has (s : Places) (j : Nat) : Prop := s[j]? = some true

instance (s : Places) (j : Nat) : Decidable (s.Has j) := inferInstanceAs (Decidable (s[j]? = some true))

theorem has_union {s t : Places} (same : s.length = t.length) (j : Nat) :
    (s.union t).Has j ↔ s.Has j ∨ t.Has j := by
  simp only [Has, union, List.getElem?_zipWith]
  by_cases inside : j < s.length
  · simp [inside, same ▸ inside]
  · simp [List.getElem?_eq_none (Nat.not_lt.1 inside), List.getElem?_eq_none (same ▸ Nat.not_lt.1 inside)]

theorem has_without {s t : Places} (same : s.length = t.length) (j : Nat) :
    (s.without t).Has j ↔ s.Has j ∧ ¬ t.Has j := by
  simp only [Has, without, List.getElem?_zipWith]
  by_cases inside : j < s.length
  · simp [inside, same ▸ inside]
  · simp [List.getElem?_eq_none (Nat.not_lt.1 inside)]

theorem has_lt {s : Places} {j : Nat} (has : s.Has j) : j < s.length :=
  (List.getElem?_eq_some_iff.1 has).1

theorem has_of_full {s : Places} (full : s.count false = 0) {j : Nat} (inside : j < s.length) : s.Has j := by
  have member : s[j] ≠ false := fun missing => List.count_eq_zero.1 full (missing ▸ List.getElem_mem inside)
  rw [Has, List.getElem?_eq_getElem inside, Bool.of_not_eq_false member]

theorem contains_true_iff (s : Places) : s.contains true = true ↔ ∃ j, s.Has j := by
  simp only [List.contains_iff_mem, List.mem_iff_getElem?, Has]

theorem count_union_le (s t : Places) : (union t s).count false ≤ t.count false := by
  induction t generalizing s with
  | nil => simp [union]
  | cons c t ih =>
    cases s with
    | nil => simp [union]
    | cons b s =>
      have rest := ih s
      simp only [union] at rest
      cases b <;> cases c <;> simp [union] <;> omega

theorem count_union_without (s t : Places) (found : (s.without t).contains true = true) :
    (union t (s.without t)).count false < t.count false := by
  induction s generalizing t with
  | nil => simp [without] at found
  | cons b s ih =>
    cases t with
    | nil => simp [without] at found
    | cons c t =>
      have atMost := count_union_le (without s t) t
      simp only [union, without] at ih atMost
      simp only [without, List.zipWith_cons_cons, List.contains_cons, Bool.or_eq_true] at found
      rcases found with here | later
      · cases b <;> cases c <;> simp [union, without] at here ⊢
        omega
      · have less := ih t later
        cases b <;> cases c <;> simp [union, without] <;> omega

def Carries (n : Nat) (r : Nat → Nat → Prop) (step : Places → Places) : Prop :=
  ∀ s : Places, s.length = n → (step s).length = n ∧ ∀ j, (step s).Has j ↔ ∃ i, s.Has i ∧ r i j

theorem Carries.steps {n : Nat} {step : Places → Places} (carries : Carries n r step) {s : Places}
    (length : s.length = n) (still : step s = s) (m j : Nat) : s.Has j ↔ ∃ i, s.Has i ∧ Steps r m i j := by
  induction m generalizing j with
  | zero => simp [Steps]
  | succ m ih =>
    simp only [steps_add (m := m) (n := 1)]
    constructor
    · intro has
      rw [← still, (carries s length).2] at has
      obtain ⟨k, reached, last⟩ := has
      obtain ⟨i, start, path⟩ := (ih k).1 reached
      exact ⟨i, start, k, path, j, last, rfl⟩
    · rintro ⟨i, start, k, path, l, last, rfl⟩
      rw [← still, (carries s length).2]
      exact ⟨k, (ih k).2 ⟨i, start, path⟩, last⟩

theorem Carries.iterate {n : Nat} {step : Places → Places} (carries : Carries n r step) (m : Nat) :
    Carries n (Steps r m) (iterate step m) := by
  induction m with
  | zero =>
    intro s length
    exact ⟨length, fun j => by simp [Places.iterate, Steps]⟩
  | succ m ih =>
    intro s length
    unfold Places.iterate
    simp only
    split
    · rename_i still
      exact ⟨length, carries.steps length still (m + 1)⟩
    · obtain ⟨kept, reached⟩ := ih (step s) (carries s length).1
      refine ⟨kept, fun j => ?_⟩
      rw [reached]
      constructor
      · rintro ⟨k, next, path⟩
        obtain ⟨i, start, first⟩ := ((carries s length).2 k).1 next
        exact ⟨i, start, k, first, path⟩
      · rintro ⟨i, start, k, first, path⟩
        exact ⟨k, ((carries s length).2 k).2 ⟨i, start, first⟩, path⟩

/-- Whoever leaves the places that are reached leaves them from a fresh one. -/
structure Fringe (n : Nat) (r : Nat → Nat → Prop) (reached fresh : Places) : Prop where
  length : reached.length = n
  freshLength : fresh.length = n
  known : ∀ i, fresh.Has i → reached.Has i
  leaves : ∀ i j, reached.Has i → r i j → reached.Has j ∨ fresh.Has i

theorem Fringe.path {n : Nat} {reached fresh : Places} (fringe : Fringe n r reached fresh) {m i j : Nat}
    (start : reached.Has i) (path : Steps r m i j) :
    reached.Has j ∨ ∃ k l, l ≤ m ∧ fresh.Has k ∧ Steps r l k j := by
  induction m generalizing i with
  | zero => exact .inl (path ▸ start)
  | succ m ih =>
    obtain ⟨k, first, later⟩ := path
    rcases fringe.leaves i k start first with inside | outer
    · rcases ih inside later with done | ⟨k, l, short, fresh, path⟩
      · exact .inl done
      · exact .inr ⟨k, l, Nat.le_succ_of_le short, fresh, path⟩
    · exact .inr ⟨i, m + 1, Nat.le_refl _, outer, k, first, later⟩

section

variable {n : Nat} {step : Places → Places} {reached fresh : Places}

theorem Fringe.next (fringe : Fringe n r reached fresh) (carries : Carries n r step) :
    let found := (step fresh).without reached
    Fringe n r (reached.union found) found ∧
      ∀ j, (reached.union found).Has j ↔ reached.Has j ∨ ∃ i, fresh.Has i ∧ r i j := by
  intro found
  obtain ⟨stepped, arrives⟩ := carries fresh fringe.freshLength
  have sameLength : (step fresh).length = reached.length := stepped.trans fringe.length.symm
  have foundLength : found.length = n := by
    simp [found, without, stepped, fringe.length]
  have foundIff : ∀ j, found.Has j ↔ (∃ i, fresh.Has i ∧ r i j) ∧ ¬ reached.Has j := fun j => by
    rw [has_without sameLength, arrives]
  have unionIff : ∀ j, (reached.union found).Has j ↔ reached.Has j ∨ found.Has j :=
    has_union (fringe.length.trans foundLength.symm)
  refine ⟨⟨?_, foundLength, fun i has => (unionIff i).2 (.inr has), fun i j has moves => ?_⟩, fun j => ?_⟩
  · simp [union, fringe.length, foundLength]
  · rcases (unionIff i).1 has with old | new
    · by_cases known : reached.Has j
      · exact .inl ((unionIff j).2 (.inl known))
      · refine .inl ((unionIff j).2 (.inr ((foundIff j).2 ⟨?_, known⟩)))
        exact ⟨i, (fringe.leaves i j old moves).resolve_left known, moves⟩
    · exact .inr new
  · rw [unionIff, foundIff]
    by_cases known : reached.Has j <;> simp [known]

theorem Fringe.closed (fringe : Fringe n r reached fresh) (carries : Carries n r step)
    (none : ¬ ((step fresh).without reached).contains true = true) (i j : Nat) (has : reached.Has i) (moves : r i j) :
    reached.Has j := by
  refine (fringe.leaves i j has moves).elim id fun outer => ?_
  obtain ⟨stepped, arrives⟩ := carries fresh fringe.freshLength
  refine Decidable.byContradiction fun unknown => none ((contains_true_iff _).2 ⟨j, ?_⟩)
  exact (has_without (stepped.trans fringe.length.symm) j).2 ⟨(arrives j).2 ⟨i, outer, moves⟩, unknown⟩

theorem steps_closed {s : Places} (closed : ∀ i j, s.Has i → r i j → s.Has j) {m i j : Nat} (has : s.Has i)
    (path : Steps r m i j) : s.Has j := by
  induction m generalizing i with
  | zero => exact path ▸ has
  | succ m ih =>
    obtain ⟨k, first, later⟩ := path
    exact ih (closed i k has first) later

theorem Fringe.has_closure (fringe : Fringe n r reached fresh) (carries : Carries n r step) (rounds j : Nat) :
    (closure step rounds reached fresh).Has j ↔
      reached.Has j ∨ ∃ i m, m ≤ rounds ∧ fresh.Has i ∧ Steps r m i j := by
  induction rounds generalizing reached fresh with
  | zero =>
    constructor
    · exact .inl
    · rintro (known | ⟨i, m, short, start, path⟩)
      · exact known
      · obtain rfl := Nat.le_zero.1 short
        exact path ▸ fringe.known i start
  | succ rounds ih =>
    obtain ⟨next, arrives⟩ := fringe.next carries
    unfold closure
    simp only
    split
    · rw [ih next]
      constructor
      · rintro (known | ⟨k, m, short, found, path⟩)
        · rcases (arrives j).1 known with old | ⟨i, start, moves⟩
          · exact .inl old
          · exact .inr ⟨i, 1, by omega, start, j, moves, rfl⟩
        · rcases (arrives k).1 (next.known k found) with old | ⟨i, start, moves⟩
          · rcases fringe.path old path with done | ⟨i, l, shorter, start, path⟩
            · exact .inl done
            · exact .inr ⟨i, l, by omega, start, path⟩
          · exact .inr ⟨i, m + 1, by omega, start, k, moves, path⟩
      · rintro (known | ⟨i, m, short, start, path⟩)
        · exact .inl ((arrives j).2 (.inl known))
        · cases m with
          | zero => exact .inl ((arrives j).2 (.inl (path ▸ fringe.known i start)))
          | succ m =>
            obtain ⟨k, first, later⟩ := path
            rcases next.path ((arrives k).2 (.inr ⟨i, start, first⟩)) later with done | ⟨k, l, shorter, found, path⟩
            · exact .inl done
            · exact .inr ⟨k, l, by omega, found, path⟩
    · rename_i none
      refine ⟨.inl, ?_⟩
      rintro (known | ⟨i, m, -, start, path⟩)
      · exact known
      · exact steps_closed (fringe.closed carries none) (fringe.known i start) path

/-- With as many rounds as places are missing, nothing is left. -/
theorem Fringe.closure_closed (fringe : Fringe n r reached fresh) (carries : Carries n r step) {rounds : Nat}
    (enough : reached.count false ≤ rounds) (i j : Nat) (has : (closure step rounds reached fresh).Has i)
    (moves : r i j) : (closure step rounds reached fresh).Has j := by
  induction rounds generalizing reached fresh with
  | zero =>
    rcases fringe.leaves i j has moves with inside | outer
    · exact inside
    · obtain ⟨stepped, arrives⟩ := carries fresh fringe.freshLength
      have inside := has_lt ((arrives j).2 ⟨i, outer, moves⟩)
      exact has_of_full (Nat.le_zero.1 enough) (by rwa [fringe.length, ← stepped])
  | succ rounds ih =>
    obtain ⟨next, -⟩ := fringe.next carries
    unfold closure at has ⊢
    simp only at has ⊢
    split at has
    · rename_i found
      rw [if_pos found]
      have fewer := count_union_without (step fresh) reached found
      exact ih next (by omega) has
    · rename_i none
      rw [if_neg none]
      exact fringe.closed carries none i j has moves

theorem Fringe.all {s : Places} (length : s.length = n) : Fringe n r s s :=
  ⟨length, length, fun _ => id, fun _ _ has _ => .inr has⟩

theorem Carries.closure (carries : Carries n r step) {s : Places} (length : s.length = n) (rounds j : Nat) :
    (closure step rounds s s).Has j ↔ ∃ i m, m ≤ rounds ∧ s.Has i ∧ Steps r m i j := by
  rw [(Fringe.all length).has_closure carries]
  constructor
  · rintro (has | found)
    · exact ⟨j, 0, Nat.zero_le _, has, rfl⟩
    · exact found
  · exact .inr

theorem Carries.closure_all (carries : Carries n r step) {s : Places} (length : s.length = n) {rounds : Nat}
    (enough : n ≤ rounds) (j : Nat) :
    (Places.closure step rounds s s).Has j ↔ ∃ i m, s.Has i ∧ Steps r m i j := by
  have fringe : Fringe n r s s := .all length
  constructor
  · intro has
    obtain ⟨i, m, -, start, path⟩ := (carries.closure length rounds j).1 has
    exact ⟨i, m, start, path⟩
  · rintro ⟨i, m, start, path⟩
    refine steps_closed (fun i j => fringe.closure_closed carries ?_ i j)
      ((carries.closure length rounds i).2 ⟨i, 0, Nat.zero_le _, start, rfl⟩) path
    exact Nat.le_trans List.count_le_length (length ▸ enough)

theorem length_closure (carries : Carries n r step) {s t : Places} (length : s.length = n) (freshLength : t.length = n)
    (rounds : Nat) : (Places.closure step rounds s t).length = n := by
  induction rounds generalizing s t with
  | zero => exact length
  | succ rounds ih =>
    unfold Places.closure
    simp only
    have stepped := (carries t freshLength).1
    split
    · exact ih (by simp [union, without, stepped, length]) (by simp [without, stepped, length])
    · exact length

end

end Places

theorem places_length (before : Option Char) (text : List Char) : (places before text).length = text.length + 1 := by
  induction text generalizing before with
  | nil => rfl
  | cons c rest ih => simp [places, ih]

theorem carries_look (text : List Char) (condition : Look) :
    Places.Carries (text.length + 1) (Spans text (.look condition)) (ends text (.look condition)) := by
  intro s length
  have sameLength : s.length = (places none text).length := length.trans (places_length none text).symm
  refine ⟨by simp [ends, places_length, length], fun j => ?_⟩
  simp only [Places.Has, ends, Spans, List.getElem?_zipWith]
  by_cases inside : j < s.length
  · have there : j < (places none text).length := sameLength ▸ inside
    constructor
    · intro has
      simp only [List.getElem?_eq_getElem inside, List.getElem?_eq_getElem there] at has
      simp only [Option.some.injEq, Bool.and_eq_true] at has
      exact ⟨j, by rw [List.getElem?_eq_getElem inside, has.1], rfl, _, List.getElem?_eq_getElem there, has.2⟩
    · rintro ⟨i, start, rfl, p, here, holds⟩
      rw [start, here]
      simp [holds]
  · constructor
    · intro has
      rw [List.getElem?_eq_none (Nat.not_lt.1 inside)] at has
      simp at has
    · rintro ⟨i, start, rfl, -⟩
      exact absurd (Places.has_lt start) inside

theorem carries_one (text : List Char) (set : Text.CharSet) :
    Places.Carries (text.length + 1) (Spans text (.one set)) (ends text (.one set)) := by
  intro s length
  refine ⟨by simp [ends, length], fun j => ?_⟩
  simp only [Places.Has, ends, Spans]
  constructor
  · intro has
    cases j with
    | zero => simp at has
    | succ j =>
      simp only [List.getElem?_cons_succ, List.getElem?_zipWith] at has
      cases start : s[j]? with
      | none => simp [start] at has
      | some b =>
        cases next : text[j]? with
        | none => simp [start, next] at has
        | some c =>
          simp only [start, next, Option.some.injEq, Bool.and_eq_true] at has
          exact ⟨j, by rw [has.1] at start; exact start, rfl, c, next, has.2⟩
  · rintro ⟨i, start, rfl, c, next, member⟩
    simp [List.getElem?_zipWith, start, next, member]

theorem carries_ends (text : List Char) (p : Pattern) :
    Places.Carries (text.length + 1) (p.Spans text) (p.ends text) := by
  induction p with
  | empty => exact fun s length => ⟨length, fun j => by simp [ends, Spans]⟩
  | look condition => exact carries_look text condition
  | one set => exact carries_one text set
  | group _ inner ih => exact ih
  | concat first second ihFirst ihSecond =>
    intro s length
    obtain ⟨kept, between⟩ := ihFirst s length
    obtain ⟨keptToo, after⟩ := ihSecond (first.ends text s) kept
    refine ⟨keptToo, fun j => ?_⟩
    simp only [ends, Spans, after, between]
    constructor
    · rintro ⟨k, ⟨i, start, left⟩, right⟩
      exact ⟨i, start, k, left, right⟩
    · rintro ⟨i, start, k, left, right⟩
      exact ⟨k, ⟨i, start, left⟩, right⟩
  | alternate first second ihFirst ihSecond =>
    intro s length
    obtain ⟨kept, left⟩ := ihFirst s length
    obtain ⟨keptToo, right⟩ := ihSecond s length
    refine ⟨by simp [ends, Places.union, kept, keptToo], fun j => ?_⟩
    simp only [ends, Spans, Places.has_union (kept.trans keptToo.symm), left, right]
    simp only [← exists_or, ← and_or_left]
  | repeated inner least most reluctant ih =>
    intro s length
    obtain ⟨kept, begun⟩ := ih.iterate least s length
    cases most with
    | none =>
      refine ⟨Places.length_closure ih kept kept _, fun j => ?_⟩
      simp only [ends, ih.closure_all kept (Nat.le_refl _), begun, Spans]
      constructor
      · rintro ⟨k, m, ⟨i, start, left⟩, right⟩
        exact ⟨i, start, least + m, Nat.le_add_right _ _, by simp, steps_add.2 ⟨k, left, right⟩⟩
      · rintro ⟨i, start, n, enough, -, path⟩
        obtain ⟨k, left, right⟩ := steps_add.1 (Nat.add_sub_of_le enough ▸ path)
        exact ⟨k, n - least, ⟨i, start, left⟩, right⟩
    | some bound =>
      refine ⟨Places.length_closure ih kept kept _, fun j => ?_⟩
      simp only [ends, ih.closure kept, begun, Spans, Option.some.injEq, forall_eq']
      constructor
      · rintro ⟨k, m, short, ⟨i, start, left⟩, right⟩
        exact ⟨i, start, least + m, Nat.le_add_right _ _, by omega, steps_add.2 ⟨k, left, right⟩⟩
      · rintro ⟨i, start, n, enough, short, path⟩
        obtain ⟨k, left, right⟩ := steps_add.1 (Nat.add_sub_of_le enough ▸ path)
        exact ⟨k, n - least, by omega, ⟨i, start, left⟩, right⟩

theorem occursIn_iff (p : Pattern) (text : String) :
    p.occursIn text = true ↔ ∃ i j, i ≤ text.toList.length ∧ p.Spans text.toList i j := by
  obtain ⟨-, arrives⟩ := carries_ends text.toList p (List.replicate (text.toList.length + 1) true) (by simp)
  have start : ∀ i, Places.Has (List.replicate (text.toList.length + 1) true) i ↔ i ≤ text.toList.length := fun i => by
    simp only [Places.Has, List.getElem?_replicate]
    split <;> simp <;> omega
  rw [occursIn, List.any_eq_true]
  constructor
  · rintro ⟨b, member, holds⟩
    obtain ⟨j, entry⟩ := List.mem_iff_getElem?.1 member
    obtain ⟨i, begins, spans⟩ := (arrives j).1 (by rw [Places.Has, entry, show b = true from holds])
    exact ⟨i, j, (start i).1 begins, spans⟩
  · rintro ⟨i, j, begins, spans⟩
    exact ⟨true, List.mem_iff_getElem?.2 ⟨j, (arrives j).2 ⟨i, (start i).2 begins, spans⟩⟩, rfl⟩

theorem spans_concat (text : List Char) (first second : Pattern) (i j : Nat) :
    Spans text (.concat first second) i j ↔ ∃ k, first.Spans text i k ∧ second.Spans text k j := Iff.rfl

theorem place_before {text : List Char} {before : Option Char} {i : Nat} {p : Place}
    (here : (places before text)[i]? = some p) : p.before.isNone = true ↔ i = 0 ∧ before = none := by
  induction text generalizing before i with
  | nil =>
    obtain rfl : i = 0 := by
      have := (List.getElem?_eq_some_iff.1 here).1
      simpa [places] using this
    simp only [places, List.getElem?_cons_zero, Option.some.injEq] at here
    simp [← here]
  | cons c rest ih =>
    cases i with
    | zero =>
      simp only [places, List.getElem?_cons_zero, Option.some.injEq] at here
      simp [← here]
    | succ i =>
      simp only [places, List.getElem?_cons_succ] at here
      simp [ih here]

theorem place_after {text : List Char} {before : Option Char} {i : Nat} {p : Place}
    (here : (places before text)[i]? = some p) : p.after.isNone = true ↔ i = text.length := by
  induction text generalizing before i with
  | nil =>
    obtain rfl : i = 0 := by
      have := (List.getElem?_eq_some_iff.1 here).1
      simpa [places] using this
    simp only [places, List.getElem?_cons_zero, Option.some.injEq] at here
    simp [← here]
  | cons c rest ih =>
    cases i with
    | zero =>
      simp only [places, List.getElem?_cons_zero, Option.some.injEq] at here
      simp [← here]
    | succ i =>
      simp only [places, List.getElem?_cons_succ] at here
      simp [ih here]

theorem spans_textStart (text : List Char) (i j : Nat) : Spans text (.look .textStart) i j ↔ i = 0 ∧ j = 0 := by
  simp only [Spans, Look.holds]
  constructor
  · rintro ⟨rfl, p, here, holds⟩
    exact ⟨((place_before here).1 holds).1, ((place_before here).1 holds).1⟩
  · rintro ⟨rfl, rfl⟩
    have inside : 0 < (places none text).length := by simp [places_length]
    have here := List.getElem?_eq_getElem inside
    exact ⟨rfl, _, here, (place_before here).2 ⟨rfl, rfl⟩⟩

theorem spans_textEnd (text : List Char) (i j : Nat) :
    Spans text (.look .textEnd) i j ↔ i = text.length ∧ j = text.length := by
  simp only [Spans, Look.holds]
  constructor
  · rintro ⟨rfl, p, here, holds⟩
    exact ⟨(place_after here).1 holds, (place_after here).1 holds⟩
  · rintro ⟨rfl, rfl⟩
    have inside : text.length < (places none text).length := by simp [places_length]
    have here := List.getElem?_eq_getElem inside
    exact ⟨rfl, _, here, (place_after here).2 rfl⟩

def bounded (p : Pattern) : Pattern :=
  .concat (.look .textStart) (.concat (.group none p) (.concat (.look .textEnd) .empty))

theorem bounded_occursIn (p : Pattern) (text : String) : p.bounded.occursIn text = true ↔ p.MatchesWhole text := by
  rw [occursIn_iff]
  simp only [bounded, spans_concat, spans_textStart, spans_textEnd, MatchesWhole]
  constructor
  · rintro ⟨i, j, -, k, ⟨rfl, rfl⟩, l, spans, m, ⟨rfl, rfl⟩, rfl⟩
    exact spans
  · intro spans
    exact ⟨0, _, Nat.zero_le _, 0, ⟨rfl, rfl⟩, _, spans, _, ⟨rfl, rfl⟩, rfl⟩

end BuildGate.Pattern
