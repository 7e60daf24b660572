import BuildGate.Rule.Basic

namespace BuildGate

/-- The ids of the recorded rules, by implementation. -/
structure Cache where
  ids : Dict (List String)
  filled : ∀ entry ∈ ids.entries, entry.2 ≠ []
  distinct : ∀ entry ∈ ids.entries, entry.2.Nodup
  deriving DecidableEq

inductive Lookup where
  | hit
  /-- The id was not recorded; it is now, in the name of whoever asked. -/
  | reserved (cacheId : String)
  | uncached
  deriving DecidableEq, Repr

namespace Cache

def empty : Cache := ⟨∅, nofun, nofun⟩

def cacheIds (cache : Cache) (implementation : String) : List String :=
  (cache.ids.get? implementation).getD []

theorem nodup_cacheIds (cache : Cache) (implementation : String) : (cache.cacheIds implementation).Nodup := by
  unfold cacheIds
  cases found : cache.ids.get? implementation with
  | none => exact List.nodup_nil
  | some ids => exact cache.distinct _ (Dict.mem_of_get? found)

def contains (cache : Cache) (implementation cacheId : String) : Bool :=
  (cache.cacheIds implementation).contains cacheId

def record (cache : Cache) (implementation cacheId : String)
    (fresh : cache.contains implementation cacheId = false) : Cache where
  ids := cache.ids.insert implementation (cache.cacheIds implementation ++ [cacheId])
  filled entry member := by
    rcases Dict.mem_insert member with rfl | member
    · simp
    · exact cache.filled entry member
  distinct entry member := by
    rcases Dict.mem_insert member with rfl | member
    · have new : cacheId ∉ cache.cacheIds implementation := by simpa [contains] using fresh
      refine List.nodup_append.2 ⟨cache.nodup_cacheIds implementation, by simp, ?_⟩
      intro id old other appended same
      rw [List.mem_singleton.1 appended] at same
      exact new (same ▸ old)
    · exact cache.distinct entry member

/-- Gives a recorded id back. -/
def release (cache : Cache) (implementation cacheId : String) : Cache :=
  let rest := (cache.cacheIds implementation).filter (· ≠ cacheId)
  if none : rest = [] then
    { ids := cache.ids.erase implementation
      filled := fun entry member => cache.filled entry (Dict.mem_of_mem_erase member)
      distinct := fun entry member => cache.distinct entry (Dict.mem_of_mem_erase member) }
  else
    { ids := cache.ids.insert implementation rest
      filled := fun entry member => by
        rcases Dict.mem_insert member with rfl | member
        · exact none
        · exact cache.filled entry member
      distinct := fun entry member => by
        rcases Dict.mem_insert member with rfl | member
        · exact (cache.nodup_cacheIds implementation).filter _
        · exact cache.distinct entry member }

def size (cache : Cache) : Nat :=
  (cache.ids.entries.flatMap Prod.snd).length

def isEmpty (cache : Cache) : Bool := cache.size == 0

def lookup (cache : Cache) (implementation : String) (rule : Rule) :
    List Notice × Lookup × Cache :=
  match rule.cacheId with
  | none => ([], .uncached, cache)
  | some id =>
    if !rule.isCacheable then ([], .uncached, cache)
    else if known : cache.contains implementation id then
      if rule.accepts ⟨implementation, id⟩ then ([.reused implementation id], .hit, cache)
      else ([.rejected implementation id], .uncached, cache)
    else ([.reserved implementation id], .reserved id, cache.record implementation id (by simpa using known))

end Cache

end BuildGate
