import BuildGate.Rule.Requirement
import BuildGate.Proofs.Pattern.Room
import BuildGate.Proofs.Pattern.Wrapped

namespace BuildGate

open Pattern.Reader (nestingLimit)

namespace Pattern

def Valid (text : String) : Prop := ∃ p, read? text = .ok p

theorem read?_eq_ok {text : String} {p : Pattern} :
    read? text = .ok p ↔
      ∃ n, spelled? text = some n ∧ n.depth ≤ nestingLimit ∧ Footprint.fits n.value = true ∧ n.value = p := by
  simp only [read?, spelled?]
  cases Reader.read (text.toList.length + 1) .initial text.toList with
  | none => simp
  | some n =>
    by_cases deep : nestingLimit < n.depth
    · have notWithin : ¬n.depth ≤ nestingLimit := by omega
      simp [deep, notWithin]
    · have within : n.depth ≤ nestingLimit := by omega
      by_cases room : Footprint.fits n.value = true
      · simp [deep, within, room]
      · simp [deep, room]

/-- The pattern that a text spells can be read and matched in a group between the start and the end of a text. -/
structure Enclosable (text : String) (n : Reader.Nested Pattern) : Prop where
  closes : spelled? (text ++ ")$") = none
  depth : n.depth + 2 ≤ nestingLimit
  room : Footprint.fits n.value.bounded = true

end Pattern

namespace Requirement

open Pattern

theorem read?_anchored {text : String} {n : Reader.Nested Pattern} (spelled : spelled? text = some n) (p : Pattern) :
    read? (anchored text) = .ok p ↔ Enclosable text n ∧ n.value.bounded = p := by
  have own : ¬ClosesOutside text := fun closes => by
    rw [spelled?_of_closesOutside closes] at spelled
    cases spelled
  have outcome := spelled?_between own
  rw [spelled] at outcome
  have same : spelled? (anchored text) = spelled? ("^(?:" ++ text ++ ")$") := rfl
  rw [read?_eq_ok, same]
  generalize behind : spelled? (text ++ ")$") = other at outcome
  generalize spelled? ("^(?:" ++ text ++ ")$") = around at outcome
  cases outcome with
  | closed =>
    constructor
    · rintro ⟨_, equal, depth, room, rfl⟩
      cases equal
      exact ⟨⟨behind, depth, room⟩, rfl⟩
    · rintro ⟨⟨_, depth, room⟩, rfl⟩
      exact ⟨_, rfl, depth, room, rfl⟩
  | swallowed =>
    constructor
    · rintro ⟨_, equal, _⟩
      cases equal
    · rintro ⟨⟨closes, _, _⟩, _⟩
      rw [behind] at closes
      cases closes

theorem not_valid_anchored {text : String} (invalid : ¬Valid text) (own : ¬ClosesOutside text) :
    ¬Valid (anchored text) := by
  rintro ⟨p, read⟩
  cases spelled : spelled? text with
  | none =>
    have outcome := spelled?_between own
    rw [spelled] at outcome
    obtain ⟨n, around, -⟩ := read?_eq_ok.1 read
    have same : spelled? ("^(?:" ++ text ++ ")$") = some n := around
    rw [same] at outcome
    cases outcome
  | some n =>
    have enclosable := ((read?_anchored spelled p).1 read).1
    have depth := enclosable.depth
    exact invalid ⟨n.value, read?_eq_ok.2 ⟨n, spelled, by omega, Footprint.fits_of_bounded enclosable.room, rfl⟩⟩

variable {r : Requirement} {text : String}

theorem check_error (given : r.pattern = some text) (nonempty : text ≠ "") {fault : Fault}
    (read : read? (anchored text) = .error fault) (source : ValueSource) (value : String) :
    r.check source (some value) = .fatal (invalidText text fault) := by
  have kept : r.pattern.filter (· ≠ "") = some text := by simp [given, Option.filter, nonempty]
  simp only [check, kept, read]

theorem check_ok (given : r.pattern = some text) (nonempty : text ≠ "") {p : Pattern}
    (read : read? (anchored text) = .ok p) (source : ValueSource) (value : String) :
    r.check source (some value) =
      if p.occursIn value then .passed else .violation (r.mismatchText source value text) := by
  have kept : r.pattern.filter (· ≠ "") = some text := by simp [given, Option.filter, nonempty]
  simp only [check, kept, read]

theorem check_fatal_iff (given : r.pattern = some text) (nonempty : text ≠ "") (source : ValueSource) (value : String) :
    (∃ message, r.check source (some value) = .fatal message) ↔ ¬Valid (anchored text) := by
  rw [Valid]
  cases read : read? (anchored text) with
  | error fault => simp [check_error given nonempty read]
  | ok p =>
    rw [check_ok given nonempty read]
    split <;> simp

/-- A requirement judges values by a pattern: it is fatal exactly where the pattern is none, and otherwise a value
    passes exactly where the pattern matches the whole of it. -/
structure JudgesBy (r : Requirement) (text : String) : Prop where
  fatal : ∀ source value, (∃ message, r.check source (some value) = .fatal message) ↔ ¬Valid text
  passed : ∀ source value, r.check source (some value) = .passed ↔ ∃ p, read? text = .ok p ∧ p.MatchesWhole value
  violation : ∀ source value, (∃ message, r.check source (some value) = .violation message) ↔
    ∃ p, read? text = .ok p ∧ ¬p.MatchesWhole value

theorem judgesBy_of_not_valid (given : r.pattern = some text) (nonempty : text ≠ "") (invalid : ¬Valid text)
    (around : ¬Valid (anchored text)) : r.JudgesBy text := by
  have fails : ∀ source value, ∃ message, r.check source (some value) = .fatal message := fun source value =>
    (check_fatal_iff given nonempty source value).2 around
  have unread : ∀ holds : Pattern → Prop, ¬∃ p, read? text = .ok p ∧ holds p := by
    rintro holds ⟨p, read, -⟩
    exact invalid ⟨p, read⟩
  refine ⟨fun source value => iff_of_true (fails source value) invalid, fun source value => ?_, fun source value => ?_⟩
  · obtain ⟨message, check⟩ := fails source value
    exact iff_of_false (by simp [check]) (unread _)
  · obtain ⟨message, check⟩ := fails source value
    exact iff_of_false (by simp [check]) (unread _)

theorem judgesBy_of_enclosable (given : r.pattern = some text) (nonempty : text ≠ "") {n : Reader.Nested Pattern}
    (spelled : spelled? text = some n) (enclosable : Enclosable text n) : r.JudgesBy text := by
  have around := (read?_anchored spelled _).2 ⟨enclosable, rfl⟩
  have alone : read? text = .ok n.value :=
    read?_eq_ok.2 ⟨n, spelled, by have := enclosable.depth; omega, Footprint.fits_of_bounded enclosable.room, rfl⟩
  have only : ∀ holds : Pattern → Prop, (∃ p, read? text = .ok p ∧ holds p) ↔ holds n.value := by
    simp [alone]
  refine ⟨fun source value => ?_, fun source value => ?_, fun source value => ?_⟩
  · rw [check_fatal_iff given nonempty]
    exact iff_of_false (fun none => none ⟨_, around⟩) fun none => none ⟨_, alone⟩
  · rw [check_ok given nonempty around, only, ← bounded_occursIn]
    split <;> simp_all
  · rw [check_ok given nonempty around, only, ← bounded_occursIn]
    split <;> simp_all

/-- A requirement judges values by its pattern as long as the text of the pattern keeps to the group that it is put
    in: a pattern can also be read there, and what is none does not become one by closing the group. -/
theorem judgesBy_iff (given : r.pattern = some text) (nonempty : text ≠ "") :
    r.JudgesBy text ↔
      (∀ p, read? text = .ok p → ∃ n, spelled? text = some n ∧ n.value = p ∧ Enclosable text n) ∧
        (ClosesOutside text → ¬Valid (anchored text)) := by
  constructor
  · intro judges
    have same : ¬Valid (anchored text) ↔ ¬Valid text :=
      (check_fatal_iff given nonempty .property "").symm.trans (judges.fatal .property "")
    refine ⟨fun p read => ?_, fun closes => same.2 ?_⟩
    · obtain ⟨n, spelled, -, -, rfl⟩ := read?_eq_ok.1 read
      obtain ⟨q, around⟩ := Classical.not_not.1 (mt same.1 (Classical.not_not.2 ⟨_, read⟩))
      exact ⟨n, spelled, rfl, ((read?_anchored spelled q).1 around).1⟩
    · rintro ⟨p, read⟩
      obtain ⟨n, spelled, -⟩ := read?_eq_ok.1 read
      rw [spelled?_of_closesOutside closes] at spelled
      cases spelled
  · rintro ⟨enclosable, closed⟩
    by_cases valid : Valid text
    · obtain ⟨p, read⟩ := valid
      obtain ⟨n, spelled, -, enclosable⟩ := enclosable p read
      exact judgesBy_of_enclosable given nonempty spelled enclosable
    · refine judgesBy_of_not_valid given nonempty valid ?_
      by_cases closes : ClosesOutside text
      · exact closed closes
      · exact not_valid_anchored valid closes

theorem judgesBy_iff_repeated : (⟨"key", some "ab+", none, none⟩ : Requirement).JudgesBy "ab+" := by
  obtain ⟨n, spelled⟩ : ∃ n, spelled? "ab+" = some n := Option.isSome_iff_exists.1 (by decide +kernel)
  have within : (spelled? "ab+").all
      (fun n => n.depth + 2 ≤ nestingLimit && Footprint.fits n.value.bounded) = true := by
    decide +kernel
  have unclosed : spelled? ("ab+" ++ ")$") = none := Option.isNone_iff_eq_none.1 (by decide +kernel)
  rw [spelled, Option.all_some, Bool.and_eq_true, decide_eq_true_eq] at within
  refine (judgesBy_iff rfl (by decide)).2 ⟨fun p read => ?_, fun closes => ?_⟩
  · obtain ⟨m, same, -, -, rfl⟩ := read?_eq_ok.1 read
    rw [spelled, Option.some.injEq] at same
    subst same
    exact ⟨n, spelled, rfl, unclosed, within.1, within.2⟩
  · rw [spelled?_of_closesOutside closes] at spelled
    cases spelled

/-- A text that closes the group and opens another one is no pattern, yet values pass that begin with what comes before
    the parenthesis. -/
theorem not_judgesBy_closing :
    ¬∀ (r : Requirement) (text : String), r.pattern = some text → text ≠ "" → r.JudgesBy text := by
  intro judges
  have judged := judges ⟨"key", some "a)|(?:b", none, none⟩ "a)|(?:b" rfl (by decide)
  obtain ⟨p, read, -⟩ := (judged.passed .property "axyz").1 (by decide +kernel)
  have malformed : spelled? "a)|(?:b" = none := Option.isNone_iff_eq_none.1 (by decide +kernel)
  obtain ⟨n, spelled, -⟩ := read?_eq_ok.1 read
  rw [malformed] at spelled
  cases spelled

end Requirement

end BuildGate
