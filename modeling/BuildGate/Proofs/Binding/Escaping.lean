import BuildGate.Proofs.Binding.Interpolation

namespace BuildGate.Segment

def guarded : Segment → List Char
  | plain c => [c]
  | placeholder e => '$' :: written e
  | escape e => '$' :: '$' :: written e

def reread : Segment → List Segment
  | plain c => [plain c]
  | placeholder e => [escape e]
  | escape e => [plain '$', escape e]

theorem begins_placeholder {rest : List Char} (closed : '}' ∈ rest) : Begins ('$' :: '{' :: rest) := by
  obtain ⟨e, more, rfl, unclosed⟩ := List.eq_append_cons_of_mem closed
  exact ⟨e, more, unclosed, .inl (written_append e more).symm⟩

theorem begins_escape {rest : List Char} (closed : '}' ∈ rest) : Begins ('$' :: '$' :: '{' :: rest) := by
  obtain ⟨e, more, rfl, unclosed⟩ := List.eq_append_cons_of_mem closed
  exact ⟨e, more, unclosed, .inr (congrArg _ (written_append e more).symm)⟩

namespace Split

variable {cs : List Char} {segments : List Segment}

theorem mem_of_guarded (split : Split cs segments) {c : Char} (ordinary : c ≠ '$')
    (member : c ∈ segments.flatMap guarded) : c ∈ cs := by
  induction split with
  | done => cases member
  | plain | placeholder | escape =>
    simp only [List.flatMap_cons, guarded, written, List.mem_append, List.mem_cons] at member ⊢
    grind

theorem brace_of_guarded (split : Split cs segments) {more : List Char}
    (brace : segments.flatMap guarded = '{' :: more) : ∃ rest, cs = '{' :: rest := by
  cases split with
  | done => cases brace
  | plain apart later =>
    obtain ⟨rfl, -⟩ := List.cons.inj brace
    exact ⟨_, rfl⟩
  | placeholder closed later | escape closed later => simp [guarded] at brace

theorem begins_of_guarded (split : Split cs segments) {c : Char}
    (begins : Begins (c :: segments.flatMap guarded)) : Begins (c :: cs) := by
  obtain ⟨e, more, -, whole | whole⟩ := begins
  · rw [written_append] at whole
    obtain ⟨rfl, brace⟩ := List.cons.inj whole
    obtain ⟨rest, rfl⟩ := split.brace_of_guarded brace
    have closed : '}' ∈ '{' :: rest := split.mem_of_guarded (by decide) (by simp [brace])
    exact begins_placeholder (by simpa using closed)
  · rw [written_append] at whole
    obtain ⟨rfl, dollar⟩ := List.cons.inj whole
    cases split with
    | done => cases dollar
    | placeholder | escape => simp [guarded, written] at dollar
    | plain apart later =>
      rw [List.flatMap_cons, Segment.guarded, List.singleton_append] at dollar
      obtain ⟨rfl, brace⟩ := List.cons.inj dollar
      obtain ⟨rest, rfl⟩ := later.brace_of_guarded brace
      have closed : '}' ∈ '{' :: rest := later.mem_of_guarded (by decide) (by simp [brace])
      exact begins_escape (by simpa using closed)

theorem guarded (split : Split cs segments) :
    Split (segments.flatMap Segment.guarded) (segments.flatMap reread) := by
  induction split with
  | done => exact .done
  | plain apart later ih => exact .plain (fun begins => apart (later.begins_of_guarded begins)) ih
  | @placeholder e rest segments closed later ih =>
    simpa [Segment.guarded, reread] using Split.escape closed ih
  | @escape e rest segments closed later ih =>
    have apart : ¬ Begins ('$' :: '$' :: (written e ++ segments.flatMap Segment.guarded)) := by
      rintro ⟨f, more, -, whole | whole⟩ <;> simp [written] at whole
    simpa [Segment.guarded, reread] using Split.plain apart (.escape closed ih)

theorem resolveAll_reread (split : Split cs segments) (evaluate : Evaluator) :
    resolveAll evaluate (segments.flatMap reread) = .ok cs := by
  induction split with
  | done => rfl
  | plain apart later ih | placeholder closed later ih | escape closed later ih =>
    simp [reread, resolveAll, Segment.resolve, ih, Except.map]

end Split

theorem placeholder_notMem_reread (segments : List Segment) (e : List Char) :
    .placeholder e ∉ segments.flatMap reread := by
  rw [List.mem_flatMap]
  rintro ⟨segment, -, member⟩
  cases segment <;> simp [reread] at member

end BuildGate.Segment

namespace BuildGate

open Segment

/-- With a dollar sign in front of every placeholder and every escape, a text is resolved to itself, and
    there is nothing left in it to evaluate. -/
theorem resolve_guarded (text : String) :
    ∃ segments, (∀ other, Split text.toList other ↔ other = segments) ∧
      let literal := String.ofList (segments.flatMap guarded)
      (∀ evaluate, resolve evaluate (.text literal) = .ok (.text text)) ∧
        ∃ parts, (∀ other, Split literal.toList other ↔ other = parts) ∧ ∀ e, .placeholder e ∉ parts := by
  refine ⟨ofText text, split_iff text, ?_⟩
  intro literal
  have split : Split text.toList (ofText text) := (split_iff text _).2 rfl
  have again : ofText literal = (ofText text).flatMap reread := by
    have guarded : Split literal.toList ((ofText text).flatMap reread) := by
      simpa only [literal, String.toList_ofList] using split.guarded
    exact ((split_iff literal _).1 guarded).symm
  have free : ∀ e, .placeholder e ∉ ofText literal := again ▸ placeholder_notMem_reread (ofText text)
  refine ⟨?_, ofText literal, split_iff literal, free⟩
  intro evaluate
  have mixed : ∀ e, ofText literal ≠ [.placeholder e] := fun e only => free e (by simp [only])
  rw [resolve, resolveText_mixed mixed, again, split.resolveAll_reread]
  simp [Except.map]

end BuildGate
