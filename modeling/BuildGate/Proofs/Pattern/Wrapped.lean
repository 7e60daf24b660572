import BuildGate.Proofs.Pattern.Spans
import BuildGate.Proofs.Pattern.Within

namespace BuildGate.Pattern.Reader

/-- On the way through the text, a parenthesis is closed that was not opened in it. -/
inductive ClosesOutside : State → List Char → Prop
  | here {s : State} {cs rest : List Char} (closing : skip s.flags cs = ')' :: rest) (outermost : s.outer = []) :
    ClosesOutside s cs
  | later {s next : State} {cs rest left : List Char} {c : Char} (visible : skip s.flags cs = c :: rest)
    (read : s.next (c :: rest) = some (next, left)) (closes : ClosesOutside next left) : ClosesOutside s cs

theorem read_visible {s : State} {c : Char} {cs rest : List Char} (visible : skip s.flags cs = c :: rest) (fuel : Nat) :
    read (fuel + 1) s cs = (s.next (c :: rest)).bind fun x => read fuel x.1 x.2 := by
  simp only [read, visible]
  cases s.next (c :: rest) <;> rfl

theorem read_nothing {s : State} {cs : List Char} (nothing : skip s.flags cs = []) (fuel : Nat) :
    read (fuel + 1) s cs = if s.outer.isEmpty then some s.group.choice else none := by
  simp only [read, nothing]

theorem ClosesOutside.read_none {s : State} {cs : List Char} (closes : ClosesOutside s cs) (fuel : Nat) :
    read fuel s cs = none := by
  induction closes generalizing fuel with
  | here closing outermost =>
    cases fuel with
    | zero => rfl
    | succ fuel =>
      simp only [read_visible closing, State.next, State.closeGroup, outermost, Option.map_none, Option.bind_none]
  | later visible next _ ih =>
    cases fuel with
    | zero => rfl
    | succ fuel =>
      rw [read_visible visible, next]
      exact ih fuel

def surrounding : OpenGroup := (OpenGroup.start none .initial).add (.pattern ⟨.look .textStart, 0⟩)

variable {s : State}

theorem read_ending (s : State) (fuel : Nat) :
    read (fuel + 1) s ending = s.closeGroup.bind fun closed => read fuel closed ['$'] := by
  have visible : skip s.flags ending = ')' :: ['$'] := skip_ending s.flags
  rw [read_visible visible]
  simp only [State.next]
  cases s.closeGroup <;> rfl

theorem read_dollar (s : State) (fuel : Nat) :
    read (fuel + 1) s ['$'] = read fuel (s.add ⟨endPattern s.flags, 0⟩) [] := by
  rw [read_visible (skip_dollar _ _)]
  rfl

theorem read_dollar_inside (inside : s.outer ≠ []) (fuel : Nat) : read fuel s ['$'] = none := by
  have still : (s.add ⟨endPattern s.flags, 0⟩).outer.isEmpty = false := by
    simpa [State.add] using inside
  obtain _ | _ | fuel := fuel
  · rfl
  · exact read_dollar s 0
  · rw [read_dollar, read_nothing (skip_nil _), still]
    rfl

theorem State.Halted.read_none {rest : List Char} (halted : s.Halted rest) (inside : s.outer ≠ []) (fuel : Nat) :
    read fuel s rest = none := by
  rcases halted with rfl | ⟨more, rfl, behind⟩
  · exact read_dollar_inside inside fuel
  · cases fuel with
    | zero => rfl
    | succ fuel =>
      have visible : skip s.flags ('{' :: more) = '{' :: more := by
        unfold skip
        split <;> rfl
      have none : counts s.flags more = none := by
        rw [counts, behind, decimal_ending]
        rfl
      simp only [read_visible visible, State.next, none, Option.bind_eq_bind, Option.bind_none]

theorem read_close (whole : s.Whole) (outermost : s.outer = []) (fuel : Nat) :
    read (fuel + 3) (s.within [surrounding]) ending =
      some ⟨s.group.choice.value.bounded, s.group.choice.depth + 2⟩ := by
  obtain ⟨g, last, number, outside⟩ := whole
  rw [outermost, List.getLast?_singleton, Option.some.injEq] at last
  subst last
  rw [read_ending]
  simp only [State.closeGroup, State.within, outermost, List.nil_append, Option.bind_some]
  rw [read_dollar, read_nothing (skip_nil _), outside]
  simp [State.add, surrounding, OpenGroup.start, OpenGroup.add, OpenGroup.choice, OpenGroup.closed, sequence, listDepth,
    Part.depth, Part.pattern?, number, endPattern, Flags.initial, bounded]

/-- How reading a text ends: alone, with the end of the wrapping behind it, and in the whole wrapping. -/
inductive Endings : Option (Nested Pattern) → Option (Nested Pattern) → Option (Nested Pattern) → Prop
  | fails {behind : Option (Nested Pattern)} : Endings none behind none
  | closed (p : Nested Pattern) : Endings (some p) none (some ⟨p.value.bounded, p.depth + 2⟩)
  | swallowed (p : Nested Pattern) : Endings (some p) (some p) none

theorem endings_swallowed (s : State) (fuel fuel' fuel'' : Nat) :
    Endings (read (fuel + 1) s []) (read (fuel' + 1) s []) (read (fuel'' + 1) (s.within [surrounding]) []) := by
  have open' : (s.outer ++ [surrounding]).isEmpty = false := by simp
  simp only [read_nothing (skip_nil _), State.within, open']
  cases s.outer.isEmpty with
  | true => exact .swallowed _
  | false => exact .fails

theorem endings_closed (whole : s.Whole) (fuel fuel' fuel'' : Nat) :
    Endings (read (fuel + 1) s []) (read (fuel' + 1) s ending) (read (fuel'' + 3) (s.within [surrounding]) ending) := by
  cases groups : s.outer with
  | nil =>
    have unopened : read (fuel' + 1) s ending = none :=
      (ClosesOutside.here (skip_ending _) groups).read_none _
    rw [read_close whole groups, unopened, read_nothing (skip_nil _), groups]
    exact .closed _
  | cons enclosing outer =>
    have unclosed : read (fuel'' + 3) (s.within [surrounding]) ending = none := by
      rw [read_ending]
      simp only [State.closeGroup, State.within, groups, List.cons_append, Option.bind_some]
      exact read_dollar_inside (by simp) _
    rw [unclosed, read_nothing (skip_nil _), groups]
    exact .fails

theorem read_skip {cs cs' : List Char} (same : skip s.flags cs = skip s.flags cs') (fuel : Nat) :
    read fuel s cs = read fuel s cs' := by
  cases fuel with
  | zero => rfl
  | succ fuel => simp only [read, same]

/-- Induction on the parts of the text; a text that closes no group but its own leads to the same state in the
    wrapping, with the wrapping group around. -/
theorem read_endings (whole : s.Whole) {cs : List Char} (own : ¬ClosesOutside s cs) {fuel fuel' fuel'' : Nat}
    (enough : cs.length < fuel) (enough' : cs.length + 2 < fuel') (enough'' : cs.length + 2 < fuel'') :
    Endings (read fuel s cs) (read fuel' s (cs ++ ending))
      (read fuel'' (s.within [surrounding]) (cs ++ ending)) := by
  induction fuel generalizing s cs fuel' fuel'' with
  | zero => exact absurd enough (Nat.not_lt_zero _)
  | succ fuel ih =>
    obtain ⟨fuel', rfl⟩ : ∃ n, fuel' = n + 3 := Nat.exists_eq_add_of_le' (by omega)
    obtain ⟨fuel'', rfl⟩ : ∃ n, fuel'' = n + 3 := Nat.exists_eq_add_of_le' (by omega)
    rcases skip_followed s.flags cs with ⟨same, short⟩ | ⟨swallowed, none⟩
    · cases visible : skip s.flags cs with
      | nil =>
        rw [visible, List.nil_append] at same
        rw [read_skip (visible.trans (skip_nil _).symm), read_skip (same.trans (skip_ending _).symm),
          read_skip (s := s.within [surrounding]) (same.trans (skip_ending _).symm)]
        exact endings_closed whole _ _ _
      | cons c rest =>
        rw [visible, List.cons_append] at same
        rw [visible, List.length_cons] at short
        rw [read_visible visible, read_visible same, read_visible (s := s.within [surrounding]) same,
          State.next_within s [surrounding] fun closing outermost => own (.here (closing ▸ visible) outermost)]
        have followed := State.next_followed s c rest
        generalize ahead : s.next (c :: rest) = alone at followed ⊢
        generalize s.next (c :: (rest ++ ending)) = behind at followed ⊢
        cases followed with
        | fails => exact .fails
        | @same next left shorter =>
          exact ih ((State.next_turn ahead).whole whole) (fun closes => own (.later visible ahead closes))
            (by omega) (by omega) (by omega)
        | @swallowed next =>
          obtain ⟨fuel, rfl⟩ : ∃ n, fuel = n + 1 := Nat.exists_eq_add_of_le' (by omega)
          exact endings_swallowed next _ _ _
        | @stuck next rest halted =>
          have inside : (next.within [surrounding]).outer ≠ [] := by simp [State.within]
          simp only [Option.map_some, Option.bind_some, Option.bind_none]
          rw [State.Halted.read_none (s := next.within [surrounding]) halted inside]
          exact .fails
    · rw [read_skip (none.trans (skip_nil _).symm), read_skip (swallowed.trans (skip_nil _).symm),
        read_skip (s := s.within [surrounding]) (swallowed.trans (skip_nil _).symm)]
      exact endings_swallowed s _ _ _

end BuildGate.Pattern.Reader

namespace BuildGate.Pattern

open Reader

def spelled? (text : String) : Option (Nested Pattern) := read (text.toList.length + 1) .initial text.toList

def ClosesOutside (text : String) : Prop := Reader.ClosesOutside .initial text.toList

theorem spelled?_of_closesOutside {text : String} (closes : ClosesOutside text) : spelled? text = none :=
  closes.read_none _

theorem spelled?_between {text : String} (own : ¬ClosesOutside text) :
    Endings (spelled? text) (spelled? (text ++ ")$")) (spelled? ("^(?:" ++ text ++ ")$")) := by
  have behind : (text ++ ")$").toList = text.toList ++ ending := String.toList_append
  have around : ("^(?:" ++ text ++ ")$").toList = '^' :: '(' :: '?' :: ':' :: (text.toList ++ ending) := by
    rw [String.toList_append, String.toList_append]
    rfl
  have entered : ∀ cs fuel, read (fuel + 2) .initial ('^' :: '(' :: '?' :: ':' :: cs) =
      read fuel (State.initial.within [surrounding]) cs := fun _ _ => rfl
  have whole : State.initial.Whole := ⟨_, rfl, rfl, rfl⟩
  simp only [spelled?, behind, around, List.length_cons, entered]
  exact read_endings whole own (by omega) (by simp [ending]) (by simp [ending])

end BuildGate.Pattern
