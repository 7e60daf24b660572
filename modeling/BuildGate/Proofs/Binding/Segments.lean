import BuildGate.Binding.Placeholder
import BuildGate.Proofs.Text.Ended

namespace BuildGate.Segment

def Begins (cs : List Char) : Prop :=
  ∃ e rest, '}' ∉ e ∧ (cs = written e ++ rest ∨ cs = '$' :: (written e ++ rest))

inductive Split : List Char → List Segment → Prop
  | done : Split [] []
  | plain {c : Char} {rest : List Char} {segments : List Segment} (apart : ¬ Begins (c :: rest))
      (later : Split rest segments) : Split (c :: rest) (.plain c :: segments)
  | placeholder {e rest : List Char} {segments : List Segment} (closed : '}' ∉ e)
      (later : Split rest segments) : Split (written e ++ rest) (.placeholder e :: segments)
  | escape {e rest : List Char} {segments : List Segment} (closed : '}' ∉ e)
      (later : Split rest segments) : Split ('$' :: (written e ++ rest)) (.escape e :: segments)

theorem Begins.closed {cs : List Char} (begins : Begins cs) : '}' ∈ cs := by
  obtain ⟨e, rest, -, rfl | rfl⟩ := begins <;> simp [written]

theorem written_append (e rest : List Char) : written e ++ rest = '$' :: '{' :: (e ++ '}' :: rest) := by
  simp [written]

theorem written_inj {e f rest more : List Char} (left : '}' ∉ e) (right : '}' ∉ f)
    (same : written e ++ rest = written f ++ more) : e = f ∧ rest = more := by
  rw [written_append, written_append, List.cons.injEq, List.cons.injEq] at same
  have counts : e.count '}' = f.count '}' := by
    rw [List.count_eq_zero.2 left, List.count_eq_zero.2 right]
  exact Text.append_mark_inj counts same.2.2

theorem written_ne_escape (e f rest more : List Char) : written e ++ rest ≠ '$' :: (written f ++ more) := by
  simp [written]

theorem Split.unique {cs : List Char} {a b : List Segment} (left : Split cs a) (right : Split cs b) : a = b := by
  induction left generalizing b with
  | done =>
    cases right with
    | done => rfl
  | @plain c rest segments apart later ih =>
    generalize whole : c :: rest = cs at right
    cases right with
    | done => cases whole
    | plain _ further =>
      obtain ⟨rfl, rfl⟩ := List.cons.inj whole
      rw [ih further]
    | placeholder closed _ => exact absurd ⟨_, _, closed, .inl whole⟩ apart
    | escape closed _ => exact absurd ⟨_, _, closed, .inr whole⟩ apart
  | @placeholder e rest segments closed later ih =>
    generalize whole : written e ++ rest = cs at right
    cases right with
    | done => cases whole
    | plain apart _ => exact absurd ⟨e, rest, closed, .inl whole.symm⟩ apart
    | placeholder shut further =>
      obtain ⟨rfl, rfl⟩ := written_inj closed shut whole
      rw [ih further]
    | escape _ _ => exact absurd whole (written_ne_escape _ _ _ _)
  | @escape e rest segments closed later ih =>
    generalize whole : '$' :: (written e ++ rest) = cs at right
    cases right with
    | done => cases whole
    | plain apart _ => exact absurd ⟨e, rest, closed, .inr whole.symm⟩ apart
    | placeholder _ _ => exact absurd whole.symm (written_ne_escape _ _ _ _)
    | escape shut further =>
      obtain ⟨rfl, rfl⟩ := written_inj closed shut (List.cons.inj whole).2
      rw [ih further]

theorem split_of_unclosed {cs : List Char} (unclosed : '}' ∉ cs) : Split cs (cs.map .plain) := by
  induction cs with
  | nil => exact .done
  | cons c rest ih =>
    have apart : ¬ Begins (c :: rest) := fun begins => unclosed begins.closed
    exact .plain apart (ih fun member => unclosed (List.mem_cons_of_mem _ member))

def Opened.read (o : Opened) : List Char :=
  (if o.escaped then ['$', '$', '{'] else ['$', '{']) ++ o.held.reverse

/-- The induction is on the scanner. What it has read of an opened placeholder is put back in front of the
    remaining characters, for it turns out to be plain if no brace follows. -/
theorem split_scan (o : Option Opened) (cs : List Char) (opened : ∀ p ∈ o, '}' ∉ p.held) :
    Split ((o.map Opened.read).getD [] ++ cs) (scan o cs) := by
  fun_induction scan o cs with
  | case1 => exact .done
  | case2 o =>
    have unclosed : '}' ∉ o.read := by
      have held := opened o rfl
      cases escaped : o.escaped <;> simp [Opened.read, escaped, held]
    simpa [Opened.asPlain, Opened.read] using split_of_unclosed unclosed
  | case3 o rest ih =>
    have held : '}' ∉ o.held.reverse := by simpa using opened o rfl
    have later := ih (by simp)
    simp only [Option.map_none, Option.getD_none, List.nil_append] at later
    cases escaped : o.escaped with
    | true => simpa [Opened.close, Opened.read, escaped, written] using Split.escape held later
    | false => simpa [Opened.close, Opened.read, escaped, written] using Split.placeholder held later
  | case4 o c rest other ih =>
    have held : '}' ∉ c :: o.held := by simp [opened o rfl, Ne.symm other]
    simpa [Opened.read] using ih (by simpa using held)
  | case5 rest ih => simpa [Opened.read] using ih (by simp)
  | case6 rest ih => simpa [Opened.read] using ih (by simp)
  | case7 c rest noEscape noPlaceholder ih =>
    have apart : ¬ Begins (c :: rest) := by
      rintro ⟨e, more, -, whole | whole⟩
      · rw [written_append] at whole
        obtain ⟨rfl, rfl⟩ := List.cons.inj whole
        exact noPlaceholder _ rfl rfl
      · rw [written_append] at whole
        obtain ⟨rfl, rfl⟩ := List.cons.inj whole
        exact noEscape _ rfl rfl
    exact .plain apart (ih (by simp))

theorem split_iff (text : String) (segments : List Segment) :
    Split text.toList segments ↔ segments = ofText text := by
  have found : Split text.toList (ofText text) := split_scan none text.toList (by simp)
  constructor
  · intro other
    exact other.unique found
  · rintro rfl
    exact found

end BuildGate.Segment
