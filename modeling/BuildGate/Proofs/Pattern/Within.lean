import BuildGate.Proofs.Pattern.FollowedPart

namespace BuildGate.Pattern.Reader

namespace State

def within (s : State) (around : List OpenGroup) : State := { s with outer := s.outer ++ around }

variable (s : State) (around : List OpenGroup)

theorem enterNamed_within (cs : List Char) :
    (s.within around).enterNamed cs = (s.enterNamed cs).map fun x => (x.1.within around, x.2) := by
  have same : (s.within around).names = s.names := rfl
  simp only [enterNamed, same, Option.bind_eq_bind]
  cases groupName true cs with
  | none => rfl
  | some x =>
    simp only [Option.bind_some]
    split <;> rfl

theorem enterFlagged_within (cs : List Char) :
    (s.within around).enterFlagged cs = (s.enterFlagged cs).map fun x => (x.1.within around, x.2) := by
  simp only [enterFlagged, within]
  split <;> rfl

theorem openGroup_within (cs : List Char) :
    (s.within around).openGroup cs = (s.openGroup cs).map fun x => (x.1.within around, x.2) := by
  have same : (s.within around).flags = s.flags := rfl
  simp only [openGroup, same]
  cases skip s.flags cs with
  | nil => rfl
  | cons c rest =>
    simp only
    split
    · cases rest with
      | nil => rfl
      | cons c rest =>
        simp only [openMarked, enterNamed_within, enterFlagged_within]
        split
        · rfl
        · split
          · split <;> rfl
          · split <;> rfl
    · rfl

theorem repeatLast_within (least : Nat) (most : Option Nat) (cs : List Char) :
    (s.within around).repeatLast least most cs =
      (s.repeatLast least most cs).map fun x => (x.1.within around, x.2) := by
  simp only [repeatLast, within, Option.map_map]
  rfl

/-- What the groups around do not matter for: everything but closing the outermost group. -/
theorem next_within {c : Char} (inside : c = ')' → s.outer ≠ []) (rest : List Char) :
    (s.within around).next (c :: rest) = (s.next (c :: rest)).map fun x => (x.1.within around, x.2) := by
  by_cases sign : c ∈ signs
  · rcases mem_signs.1 sign with rfl | rfl | rfl | rfl | rfl | rfl | rfl | rfl
    · exact openGroup_within s around rest
    · obtain ⟨enclosing, outer, groups⟩ := List.exists_cons_of_ne_nil (inside rfl)
      simp only [next, closeGroup, within, groups, List.cons_append, Option.map_some]
    · rfl
    · simp only [next, Option.map_map]
      rfl
    · exact repeatLast_within s around 0 (some 1) rest
    · exact repeatLast_within s around 0 none rest
    · exact repeatLast_within s around 1 none rest
    · have flags : (s.within around).flags = s.flags := rfl
      simp only [next, flags, Option.bind_eq_bind]
      cases counts s.flags rest with
      | none => rfl
      | some x => exact repeatLast_within s around x.1.1 x.1.2 (skip s.flags x.2)
  · rw [next_simple _ sign, next_simple _ sign, Option.map_map]
    rfl

inductive Turn : State → Prop
  | stays {next : State} (outer : next.outer = s.outer) (number : next.group.number = s.group.number)
    (outside : next.group.outside = s.group.outside) : Turn next
  | opens {next : State} (outer : next.outer = s.group :: s.outer) : Turn next
  | closes {next : State} {enclosing : OpenGroup} (outer : s.outer = enclosing :: next.outer)
    (number : next.group.number = enclosing.number) (outside : next.group.outside = enclosing.outside) : Turn next

variable {s}

theorem enterNamed_turn {next : State} {cs left : List Char} (read : s.enterNamed cs = some (next, left)) :
    s.Turn next := by
  simp only [enterNamed, Option.bind_eq_bind, Option.bind_eq_some_iff] at read
  obtain ⟨name, -, read⟩ := read
  split at read
  · cases read
  · cases read
    exact .opens rfl

theorem enterFlagged_turn {next : State} {cs left : List Char} (read : s.enterFlagged cs = some (next, left)) :
    s.Turn next := by
  simp only [enterFlagged] at read
  split at read
  · cases read
    exact .opens rfl
  · cases read
  · cases read
    exact .stays rfl rfl rfl
  · cases read

theorem openGroup_turn {next : State} {cs left : List Char} (read : s.openGroup cs = some (next, left)) :
    s.Turn next := by
  simp only [openGroup] at read
  split at read
  · cases read
    exact .opens rfl
  · split at read
    · rename_i c rest _ _
      cases rest with
      | nil => cases read
      | cons c rest =>
        simp only [openMarked] at read
        split at read
        · cases read
        · split at read
          · split at read
            · cases read
            · exact enterNamed_turn read
          · split at read
            · exact enterNamed_turn read
            · exact enterFlagged_turn read
    · cases read
      exact .opens rfl

theorem repeatLast_turn {next : State} {least : Nat} {most : Option Nat} {cs left : List Char}
    (read : s.repeatLast least most cs = some (next, left)) : s.Turn next := by
  simp only [repeatLast, OpenGroup.repeatLast] at read
  split at read
  · cases read
    exact .stays rfl rfl rfl
  · cases read

theorem next_turn {next : State} {c : Char} {rest left : List Char}
    (read : s.next (c :: rest) = some (next, left)) : s.Turn next := by
  by_cases sign : c ∈ signs
  · rcases mem_signs.1 sign with rfl | rfl | rfl | rfl | rfl | rfl | rfl | rfl
    · exact openGroup_turn read
    · simp only [State.next, closeGroup] at read
      split at read
      · cases read
      · rename_i enclosing outer groups
        cases read
        exact .closes groups rfl rfl
    · cases read
      exact .stays rfl rfl rfl
    · simp only [State.next, Option.map_eq_some_iff] at read
      obtain ⟨x, -, equal⟩ := read
      cases equal
      exact .stays rfl rfl rfl
    · exact repeatLast_turn read
    · exact repeatLast_turn read
    · exact repeatLast_turn read
    · simp only [State.next, Option.bind_eq_bind, Option.bind_eq_some_iff] at read
      obtain ⟨x, -, read⟩ := read
      exact repeatLast_turn read
  · rw [next_simple s sign, Option.map_eq_some_iff] at read
    obtain ⟨x, -, equal⟩ := read
    cases equal
    exact .stays rfl rfl rfl

def Whole (s : State) : Prop :=
  ∃ g, (s.group :: s.outer).getLast? = some g ∧ g.number = none ∧ g.outside = .initial

theorem Turn.whole {next : State} (turn : s.Turn next) (whole : s.Whole) : next.Whole := by
  obtain ⟨g, last, number, outside⟩ := whole
  cases turn with
  | stays outer sameNumber sameOutside =>
    rw [Whole, outer]
    cases groups : s.outer with
    | nil =>
      rw [groups] at last
      cases last
      exact ⟨_, rfl, sameNumber.trans number, sameOutside.trans outside⟩
    | cons enclosing outer =>
      rw [groups, List.getLast?_cons_cons] at last
      exact ⟨g, by rw [List.getLast?_cons_cons, last], number, outside⟩
  | opens outer =>
    rw [Whole, outer]
    exact ⟨g, by rw [List.getLast?_cons_cons, last], number, outside⟩
  | closes outer sameNumber sameOutside =>
    rw [outer, List.getLast?_cons_cons] at last
    cases groups : next.outer with
    | nil =>
      rw [groups] at last
      cases last
      exact ⟨next.group, by rw [groups]; rfl, sameNumber.trans number, sameOutside.trans outside⟩
    | cons enclosing' outer' =>
      rw [groups, List.getLast?_cons_cons] at last
      exact ⟨g, by rw [groups, List.getLast?_cons_cons, last], number, outside⟩

end State

end BuildGate.Pattern.Reader
