import BuildGate.Cache
import BuildGate.Proofs.Dict.Lookup

namespace BuildGate.Cache

@[simp] theorem cacheIds_empty (implementation : String) : empty.cacheIds implementation = [] := rfl

section

variable (cache : Cache) {implementation cacheId : String}
  (fresh : cache.contains implementation cacheId = false)

theorem cacheIds_record (other : String) :
    (cache.record implementation cacheId fresh).cacheIds other =
      if other = implementation then cache.cacheIds implementation ++ [cacheId] else cache.cacheIds other := by
  simp only [cacheIds, record, Dict.get?_insert]
  split <;> rfl

theorem cacheIds_release (implementation cacheId other : String) :
    (cache.release implementation cacheId).cacheIds other =
      if other = implementation then (cache.cacheIds implementation).filter (· ≠ cacheId)
      else cache.cacheIds other := by
  simp only [release]
  split
  · rename_i none
    by_cases same : other = implementation
    · simp only [cacheIds, Dict.get?_erase, same, ↓reduceIte, Option.getD_none] at none ⊢
      exact none.symm
    · simp only [cacheIds, Dict.get?_erase, same, ↓reduceIte]
  · by_cases same : other = implementation
    · simp only [cacheIds, Dict.get?_insert, same, ↓reduceIte, Option.getD_some]
    · simp only [cacheIds, Dict.get?_insert, same, ↓reduceIte]

theorem contains_iff (implementation cacheId : String) :
    cache.contains implementation cacheId = true ↔ cacheId ∈ cache.cacheIds implementation := by
  simp [contains]

include fresh in
theorem notMem_of_fresh : cacheId ∉ cache.cacheIds implementation := by
  rw [← contains_iff, fresh]
  exact Bool.false_ne_true

theorem contains_record (other id : String) :
    (cache.record implementation cacheId fresh).contains other id = true ↔
      (other = implementation ∧ id = cacheId) ∨ cache.contains other id = true := by
  rw [contains_iff, contains_iff, cacheIds_record]
  by_cases same : other = implementation
  · simp [same, or_comm]
  · simp [same]

theorem contains_release (implementation cacheId other id : String) :
    (cache.release implementation cacheId).contains other id = true ↔
      ¬ (other = implementation ∧ id = cacheId) ∧ cache.contains other id = true := by
  rw [contains_iff, contains_iff, cacheIds_release]
  by_cases same : other = implementation
  · simp [same, and_comm]
  · simp [same]

theorem ext_cacheIds {c d : Cache} (same : ∀ implementation, c.cacheIds implementation = d.cacheIds implementation) :
    c = d := by
  obtain ⟨left, leftFilled, leftDistinct⟩ := c
  obtain ⟨right, rightFilled, rightDistinct⟩ := d
  congr 1
  apply Dict.ext_get?
  intro implementation
  have equal := same implementation
  simp only [cacheIds] at equal
  cases foundLeft : left.get? implementation with
  | none =>
    cases foundRight : right.get? implementation with
    | none => rfl
    | some ids =>
      have some := rightFilled _ (Dict.mem_of_get? foundRight)
      simp only [foundLeft, foundRight, Option.getD_none, Option.getD_some] at equal
      exact absurd equal.symm some
  | some ids =>
    have some := leftFilled _ (Dict.mem_of_get? foundLeft)
    cases foundRight : right.get? implementation with
    | none =>
      simp only [foundLeft, foundRight, Option.getD_none, Option.getD_some] at equal
      exact absurd equal some
    | some others =>
      simp only [foundLeft, foundRight, Option.getD_some] at equal
      rw [equal]

theorem release_record : (cache.record implementation cacheId fresh).release implementation cacheId = cache := by
  apply ext_cacheIds
  intro other
  rw [cacheIds_release]
  split
  · rename_i same
    have kept : (cache.cacheIds implementation).filter (· ≠ cacheId) = cache.cacheIds implementation := by
      apply List.filter_eq_self.2
      intro id member
      simpa using fun equal : id = cacheId => cache.notMem_of_fresh fresh (equal ▸ member)
    have dropped : [cacheId].filter (· ≠ cacheId) = [] := by simp
    rw [cacheIds_record, if_pos rfl, List.filter_append, kept, dropped, List.append_nil, same]
  · rename_i different
    rw [cacheIds_record, if_neg different]

end

/-- What a cache says and answers when it is asked for a rule, and what becomes of it. -/
inductive Answered (cache : Cache) (implementation : String) (rule : Rule) : List Notice × Lookup × Cache → Prop
  | apart (out : rule.cacheId = none ∨ rule.isCacheable = false) :
      Answered cache implementation rule ([], .uncached, cache)
  | accepted {id : String} (named : rule.cacheId = some id) (takesPart : rule.isCacheable = true)
      (known : cache.contains implementation id = true)
      (accepts : rule.accepts ⟨implementation, id⟩ = true) :
      Answered cache implementation rule ([.reused implementation id], .hit, cache)
  | rejected {id : String} (named : rule.cacheId = some id) (takesPart : rule.isCacheable = true)
      (known : cache.contains implementation id = true)
      (rejects : rule.accepts ⟨implementation, id⟩ = false) :
      Answered cache implementation rule ([.rejected implementation id], .uncached, cache)
  | fresh {id : String} (named : rule.cacheId = some id) (takesPart : rule.isCacheable = true)
      (unknown : cache.contains implementation id = false) :
      Answered cache implementation rule
        ([.reserved implementation id], .reserved id, cache.record implementation id unknown)

theorem lookup_answered (cache : Cache) (implementation : String) (rule : Rule) :
    Answered cache implementation rule (cache.lookup implementation rule) := by
  unfold lookup
  split
  · rename_i unnamed
    exact .apart (.inl unnamed)
  · rename_i id named
    cases takesPart : rule.isCacheable with
    | false => exact .apart (.inr takesPart)
    | true =>
      simp only [Bool.not_true, Bool.false_eq_true, ↓reduceIte]
      split
      · rename_i known
        split
        · rename_i accepts
          exact .accepted named takesPart known accepts
        · rename_i rejects
          exact .rejected named takesPart known (by simpa using rejects)
      · rename_i unknown
        exact .fresh named takesPart (by simpa using unknown)

end BuildGate.Cache
