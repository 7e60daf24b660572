import BuildGate.Proofs.Binding.Segments
import BuildGate.Proofs.Document.ReadBack

namespace BuildGate

namespace Segment

inductive Inserted (evaluate : Evaluator) : Segment → List Char → Prop
  | plain (c : Char) : Inserted evaluate (.plain c) [c]
  | escape (e : List Char) : Inserted evaluate (.escape e) (written e)
  | text {e : List Char} {content : String} (value : evaluate (String.ofList e) = .ok (.text content)) :
      Inserted evaluate (.placeholder e) content.toList
  | other {e : List Char} {v : Value} (value : evaluate (String.ofList e) = .ok v)
      (untext : ∀ content, v ≠ .text content) : Inserted evaluate (.placeholder e) v.compact.toList

/-- The leftmost placeholder that has no value. -/
structure Fails (evaluate : Evaluator) (segments : List Segment) (e : List Char) (reason : String) : Prop where
  fails : evaluate (String.ofList e) = .error reason
  first : ∃ before after, segments = before ++ .placeholder e :: after ∧
    ∀ f, .placeholder f ∈ before → ∃ v, evaluate (String.ofList f) = .ok v

inductive Interpolated (evaluate : Evaluator) (segments : List Segment) : Except BindError Value → Prop
  | whole {e : List Char} {v : Value} (only : segments = [.placeholder e])
      (value : evaluate (String.ofList e) = .ok v) : Interpolated evaluate segments (.ok v)
  | text {pieces : List (List Char)} (mixed : ∀ e, segments ≠ [.placeholder e])
      (inserted : List.Forall₂ (Inserted evaluate) segments pieces) :
      Interpolated evaluate segments (.ok (.text (String.ofList pieces.flatten)))
  | failed {e : List Char} {reason : String} (fails : Fails evaluate segments e reason) :
      Interpolated evaluate segments (.error (.unresolved (String.ofList e) reason))

variable {evaluate : Evaluator}

theorem Inserted.resolve {segment : Segment} {piece : List Char} (inserted : Inserted evaluate segment piece) :
    segment.resolve evaluate = .ok piece := by
  cases inserted with
  | plain | escape => rfl
  | text value => simp [Segment.resolve, resolvePlaceholder, value, Except.map, Value.inText]
  | @other e v value untext =>
    have printed : v.inText = v.compact := by
      cases v with
      | text content => exact absurd rfl (untext content)
      | null | bool | int | float | list | record => rfl
    simp [Segment.resolve, resolvePlaceholder, value, Except.map, printed]

/-- The piece in the place of a value that is not a text spells that value. -/
theorem Inserted.read? {e piece : List Char} (inserted : Inserted evaluate (.placeholder e) piece) {v : Value}
    (value : evaluate (String.ofList e) = .ok v) (untext : ∀ content, v ≠ .text content) (legible : v.Legible) :
    Value.read? (String.ofList piece) = some v.arranged := by
  cases inserted with
  | text other => exact absurd (Except.ok.inj (value.symm.trans other)) (untext _)
  | other same =>
    obtain rfl := Except.ok.inj (value.symm.trans same)
    rw [String.ofList_toList]
    exact Value.read?_compact legible

theorem exists_value {e : List Char} (sound : ∀ reason, evaluate (String.ofList e) ≠ .error reason) :
    ∃ v, evaluate (String.ofList e) = .ok v := by
  cases value : evaluate (String.ofList e) with
  | ok v => exact ⟨v, rfl⟩
  | error reason => exact absurd value (sound reason)

theorem exists_inserted {segment : Segment}
    (values : ∀ e, segment = .placeholder e → ∃ v, evaluate (String.ofList e) = .ok v) :
    ∃ piece, Inserted evaluate segment piece := by
  cases segment with
  | plain c => exact ⟨_, .plain c⟩
  | escape e => exact ⟨_, .escape e⟩
  | placeholder e =>
    obtain ⟨v, value⟩ := values e rfl
    by_cases text : ∃ content, v = .text content
    · obtain ⟨content, rfl⟩ := text
      exact ⟨_, .text value⟩
    · exact ⟨_, .other value fun content same => text ⟨content, same⟩⟩

theorem resolveAll_inserted {segments : List Segment} {pieces : List (List Char)}
    (inserted : List.Forall₂ (Inserted evaluate) segments pieces) :
    resolveAll evaluate segments = .ok pieces.flatten := by
  induction inserted with
  | nil => rfl
  | cons first _ ih => simp only [resolveAll, first.resolve, ih, Except.map, List.flatten_cons]

theorem resolveAll_failed {segments : List Segment} {e : List Char} {reason : String}
    (fails : Fails evaluate segments e reason) :
    resolveAll evaluate segments = .error (.unresolved (String.ofList e) reason) := by
  obtain ⟨fails, before, after, rfl, earlier⟩ := fails
  induction before with
  | nil => simp [resolveAll, Segment.resolve, resolvePlaceholder, fails, Except.map]
  | cons segment before ih =>
    have values : ∀ f, segment = .placeholder f → ∃ v, evaluate (String.ofList f) = .ok v :=
      fun f same => earlier f (same ▸ List.mem_cons_self)
    obtain ⟨piece, inserted⟩ := exists_inserted values
    have rest := ih fun f member => earlier f (List.mem_cons_of_mem _ member)
    simp only [List.cons_append, resolveAll, inserted.resolve, rest, Except.map]

theorem exists_pieces {segments : List Segment}
    (values : ∀ e, .placeholder e ∈ segments → ∃ v, evaluate (String.ofList e) = .ok v) :
    ∃ pieces, List.Forall₂ (Inserted evaluate) segments pieces := by
  induction segments with
  | nil => exact ⟨[], .nil⟩
  | cons segment rest ih =>
    obtain ⟨piece, inserted⟩ := exists_inserted fun e same => values e (same ▸ List.mem_cons_self)
    obtain ⟨pieces, further⟩ := ih fun e member => values e (List.mem_cons_of_mem _ member)
    exact ⟨piece :: pieces, .cons inserted further⟩

theorem exists_fails {segments : List Segment} {e : List Char} {reason : String}
    (member : .placeholder e ∈ segments) (fails : evaluate (String.ofList e) = .error reason) :
    ∃ f other, Fails evaluate segments f other := by
  induction segments with
  | nil => cases member
  | cons segment rest ih =>
    by_cases here : ∃ f other, segment = .placeholder f ∧ evaluate (String.ofList f) = .error other
    · obtain ⟨f, other, rfl, value⟩ := here
      exact ⟨f, other, value, [], rest, rfl, by simp⟩
    · have later : .placeholder e ∈ rest := by
        rcases List.mem_cons.1 member with same | later
        · exact absurd ⟨e, reason, same.symm, fails⟩ here
        · exact later
      obtain ⟨f, other, value, before, after, rfl, earlier⟩ := ih later
      refine ⟨f, other, value, segment :: before, after, rfl, ?_⟩
      intro g among
      rcases List.mem_cons.1 among with same | among
      · exact exists_value fun why found => here ⟨g, why, same.symm, found⟩
      · exact earlier g among

end Segment

open Segment

theorem resolveText_whole {text : String} {e : List Char} (only : ofText text = [.placeholder e])
    (evaluate : Evaluator) : resolveText evaluate text = resolvePlaceholder evaluate e := by
  rw [resolveText, only]

theorem resolveText_mixed {text : String} (mixed : ∀ e, ofText text ≠ [.placeholder e]) (evaluate : Evaluator) :
    resolveText evaluate text =
      (resolveAll evaluate (ofText text)).map fun cs => .text (String.ofList cs) := by
  unfold resolveText
  split
  · rename_i e only
    exact absurd only (mixed e)
  · rfl

theorem resolveText_failed {evaluate : Evaluator} {text : String} {e : List Char} {reason : String}
    (fails : Fails evaluate (ofText text) e reason) :
    resolveText evaluate text = .error (.unresolved (String.ofList e) reason) := by
  by_cases single : ∃ f, ofText text = [.placeholder f]
  · obtain ⟨f, only⟩ := single
    obtain ⟨value, before, after, split, -⟩ := fails
    rw [only] at split
    obtain ⟨-, same⟩ : before = [] ∧ f = e := by
      cases before <;> simp_all
    rw [resolveText_whole only, same, resolvePlaceholder, value]
  · rw [resolveText_mixed (not_exists.1 single), resolveAll_failed fails]
    rfl

theorem resolveText_inserted {evaluate : Evaluator} {text : String} {pieces : List (List Char)}
    (mixed : ∀ e, ofText text ≠ [.placeholder e])
    (inserted : List.Forall₂ (Inserted evaluate) (ofText text) pieces) :
    resolveText evaluate text = .ok (.text (String.ofList pieces.flatten)) := by
  rw [resolveText_mixed mixed, resolveAll_inserted inserted]
  rfl

theorem resolveText_iff (evaluate : Evaluator) (text : String) (result : Except BindError Value) :
    resolveText evaluate text = result ↔ Interpolated evaluate (ofText text) result := by
  constructor
  · rintro rfl
    by_cases single : ∃ e, ofText text = [.placeholder e]
    · obtain ⟨e, only⟩ := single
      rw [resolveText_whole only, resolvePlaceholder]
      split
      · rename_i v value
        exact .whole only value
      · rename_i reason value
        exact .failed ⟨value, [], [], only, by simp⟩
    · have mixed := not_exists.1 single
      by_cases failing : ∃ e reason, .placeholder e ∈ ofText text ∧ evaluate (String.ofList e) = .error reason
      · obtain ⟨e, reason, member, value⟩ := failing
        obtain ⟨f, other, fails⟩ := exists_fails member value
        rw [resolveText_failed fails]
        exact .failed fails
      · have values : ∀ e, .placeholder e ∈ ofText text → ∃ v, evaluate (String.ofList e) = .ok v :=
          fun e member => exists_value fun reason value => failing ⟨e, reason, member, value⟩
        obtain ⟨pieces, inserted⟩ := exists_pieces values
        rw [resolveText_inserted mixed inserted]
        exact .text mixed inserted
  · intro interpolated
    cases interpolated with
    | whole only value => rw [resolveText_whole only, resolvePlaceholder, value]
    | text mixed inserted => exact resolveText_inserted mixed inserted
    | failed fails => exact resolveText_failed fails

/-- What a text is resolved to is what its only reading says, and there is a fault only where some placeholder
    has no value. -/
theorem resolve_text_interpolated (evaluate : Evaluator) (text : String) :
    ∃ segments, (∀ other, Split text.toList other ↔ other = segments) ∧
      (∀ result, resolve evaluate (.text text) = result ↔ Interpolated evaluate segments result) ∧
      ((∃ fault, resolve evaluate (.text text) = .error fault) ↔
        ∃ e reason, .placeholder e ∈ segments ∧ evaluate (String.ofList e) = .error reason) := by
  refine ⟨ofText text, split_iff text, resolveText_iff evaluate text, ?_⟩
  constructor
  · rintro ⟨fault, failed⟩
    cases (resolveText_iff evaluate text (.error fault)).1 failed with
    | @failed e reason fails =>
      obtain ⟨value, before, after, split, -⟩ := fails
      exact ⟨e, reason, by simp [split], value⟩
  · rintro ⟨e, reason, member, value⟩
    obtain ⟨f, other, fails⟩ := exists_fails member value
    exact ⟨_, resolveText_failed fails⟩

end BuildGate
