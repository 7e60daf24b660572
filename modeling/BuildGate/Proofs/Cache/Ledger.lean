import Mathlib.Data.List.Nodup
import BuildGate.Proofs.Cache.Recorded

namespace BuildGate.Cache

inductive Call where
  | lookup (implementation : String) (rule : Rule)
  | isCached (implementation : String) (rule : Rule)
  | release (implementation cacheId : String)
  | clear

inductive Reply where
  | told (answer : Lookup)
  | cached (hit : Bool)
  | silent
  deriving DecidableEq

def serve (cache : Cache) : Call → Reply × Cache
  | .lookup implementation rule =>
    let (_, answer, after) := cache.lookup implementation rule
    (.told answer, after)
  | .isCached implementation rule =>
    let (_, answer, after) := cache.lookup implementation rule
    (.cached (answer = .hit), after)
  | .release implementation cacheId => (.silent, cache.release implementation cacheId)
  | .clear => (.silent, .empty)

structure Ledger where
  pairs : List (String × String)
  distinct : pairs.Nodup

namespace Ledger

def empty : Ledger := ⟨[], List.nodup_nil⟩

def add (l : Ledger) (pair : String × String) (fresh : pair ∉ l.pairs) : Ledger :=
  ⟨l.pairs ++ [pair], List.nodup_append_comm.1 (List.nodup_cons.2 ⟨fresh, l.distinct⟩)⟩

def remove (l : Ledger) (pair : String × String) : Ledger := ⟨l.pairs.erase pair, l.distinct.erase pair⟩

def lookup (l : Ledger) (implementation : String) (rule : Rule) : Lookup × Ledger :=
  match rule.cacheId with
  | none => (.uncached, l)
  | some id =>
    if rule.isCacheable = false then (.uncached, l)
    else if fresh : (implementation, id) ∉ l.pairs then (.reserved id, l.add (implementation, id) fresh)
    else (if rule.accepts ⟨implementation, id⟩ then .hit else .uncached, l)

def serve (l : Ledger) : Call → Reply × Ledger
  | .lookup implementation rule =>
    let (answer, after) := l.lookup implementation rule
    (.told answer, after)
  | .isCached implementation rule =>
    let (answer, after) := l.lookup implementation rule
    (.cached (answer = .hit), after)
  | .release implementation cacheId => (.silent, l.remove (implementation, cacheId))
  | .clear => (.silent, .empty)

def ids (l : Ledger) (implementation : String) : List String :=
  (l.pairs.filter (·.1 = implementation)).map Prod.snd

theorem mem_ids (l : Ledger) (implementation id : String) :
    id ∈ l.ids implementation ↔ (implementation, id) ∈ l.pairs := by
  simp [ids]

theorem ids_add (l : Ledger) (implementation id other : String) (fresh : (implementation, id) ∉ l.pairs) :
    (l.add (implementation, id) fresh).ids other =
      if other = implementation then l.ids implementation ++ [id] else l.ids other := by
  by_cases same : other = implementation
  · simp [ids, add, same]
  · have apart : implementation ≠ other := fun equal => same equal.symm
    simp [ids, add, same, apart]

theorem ids_remove (l : Ledger) (implementation id other : String) :
    (l.remove (implementation, id)).ids other =
      if other = implementation then (l.ids implementation).filter (· ≠ id) else l.ids other := by
  have others : (l.remove (implementation, id)).pairs = l.pairs.filter (· != (implementation, id)) :=
    l.distinct.erase_eq_filter _
  rw [ids, others, List.filter_filter]
  by_cases same : other = implementation
  · rw [if_pos same, same, ids, List.filter_map, List.filter_filter]
    congr 1
    apply List.filter_congr
    rintro ⟨name, key⟩ -
    rw [Bool.eq_iff_iff]
    by_cases here : name = implementation <;> simp [here]
  · rw [if_neg same, ids]
    congr 1
    apply List.filter_congr
    rintro ⟨name, key⟩ -
    by_cases here : name = other <;> simp [here, same]

end Ledger

def serveAll {σ : Type} (serve : σ → Call → Reply × σ) (s : σ) : List Call → List Reply × σ
  | [] => ([], s)
  | call :: rest =>
    let (reply, next) := serve s call
    let (replies, last) := serveAll serve next rest
    (reply :: replies, last)

def recorded (cache : Cache) : List (String × String) :=
  cache.ids.entries.flatMap fun entry => entry.2.map fun id => (entry.1, id)

theorem length_recorded (cache : Cache) : cache.recorded.length = cache.size := by
  simp [recorded, size, List.length_flatMap]

theorem mem_recorded (cache : Cache) (implementation id : String) :
    (implementation, id) ∈ cache.recorded ↔ id ∈ cache.cacheIds implementation := by
  have entries : (implementation, id) ∈ cache.recorded ↔
      ∃ ids, (implementation, ids) ∈ cache.ids.entries ∧ id ∈ ids := by
    simp [recorded]
  rw [entries, cacheIds]
  simp only [Dict.mem_entries_iff]
  cases cache.ids.get? implementation <;> simp

theorem nodup_recorded (cache : Cache) : cache.recorded.Nodup := by
  refine List.nodup_flatMap.2 ⟨?_, ?_⟩
  · rintro ⟨implementation, ids⟩ member
    exact (cache.distinct _ member).map fun _ _ same => (Prod.mk.inj same).2
  · apply (List.pairwise_map.1 cache.ids.keys_nodup).imp
    intro left right apart pair first second
    obtain ⟨_, -, rfl⟩ := List.mem_map.1 first
    obtain ⟨_, -, same⟩ := List.mem_map.1 second
    exact apart (Prod.mk.inj same).1.symm

structure Mirrors (cache : Cache) (l : Ledger) : Prop where
  ids : ∀ implementation, cache.cacheIds implementation = l.ids implementation

namespace Mirrors

variable {cache : Cache} {l : Ledger}

theorem empty : Mirrors .empty .empty := ⟨fun _ => rfl⟩

theorem contains_iff (mirrors : Mirrors cache l) (implementation id : String) :
    cache.contains implementation id = true ↔ (implementation, id) ∈ l.pairs := by
  rw [Cache.contains_iff, mirrors.ids, l.mem_ids]

theorem fresh_iff (mirrors : Mirrors cache l) (implementation id : String) :
    cache.contains implementation id = false ↔ (implementation, id) ∉ l.pairs := by
  rw [← mirrors.contains_iff, Bool.not_eq_true]

theorem size_eq (mirrors : Mirrors cache l) : cache.size = l.pairs.length := by
  rw [← length_recorded]
  apply List.Perm.length_eq
  rw [List.perm_ext_iff_of_nodup cache.nodup_recorded l.distinct]
  rintro ⟨implementation, id⟩
  rw [mem_recorded, mirrors.ids, l.mem_ids]

theorem record (mirrors : Mirrors cache l) {implementation id : String}
    (unknown : cache.contains implementation id = false) (fresh : (implementation, id) ∉ l.pairs) :
    Mirrors (cache.record implementation id unknown) (l.add (implementation, id) fresh) := by
  refine ⟨fun other => ?_⟩
  rw [cacheIds_record, l.ids_add]
  simp only [mirrors.ids]

theorem release (mirrors : Mirrors cache l) (implementation id : String) :
    Mirrors (cache.release implementation id) (l.remove (implementation, id)) := by
  refine ⟨fun other => ?_⟩
  rw [cacheIds_release, l.ids_remove]
  simp only [mirrors.ids]

theorem lookup (mirrors : Mirrors cache l) (implementation : String) (rule : Rule) :
    (cache.lookup implementation rule).2.1 = (l.lookup implementation rule).1 ∧
      Mirrors (cache.lookup implementation rule).2.2 (l.lookup implementation rule).2 := by
  have answered := cache.lookup_answered implementation rule
  generalize cache.lookup implementation rule = asked at answered
  unfold Ledger.lookup
  cases answered with
  | apart out =>
    cases named : rule.cacheId with
    | none => exact ⟨rfl, mirrors⟩
    | some id =>
      have optsOut : rule.isCacheable = false := out.resolve_left (by simp [named])
      simp only [optsOut, ↓reduceIte]
      exact ⟨trivial, mirrors⟩
  | accepted named takesPart known accepts =>
    have old := not_not.2 ((mirrors.contains_iff _ _).1 known)
    simp only [named, takesPart, Bool.true_eq_false, ↓reduceIte, dif_neg old, accepts]
    exact ⟨trivial, mirrors⟩
  | rejected named takesPart known rejects =>
    have old := not_not.2 ((mirrors.contains_iff _ _).1 known)
    simp only [named, takesPart, Bool.true_eq_false, ↓reduceIte, dif_neg old, rejects, Bool.false_eq_true]
    exact ⟨trivial, mirrors⟩
  | fresh named takesPart unknown =>
    have new := (mirrors.fresh_iff _ _).1 unknown
    simp only [named, takesPart, Bool.true_eq_false, ↓reduceIte, dif_pos new]
    exact ⟨trivial, mirrors.record unknown new⟩

theorem serve (mirrors : Mirrors cache l) (call : Call) :
    (cache.serve call).1 = (l.serve call).1 ∧ Mirrors (cache.serve call).2 (l.serve call).2 := by
  cases call with
  | lookup implementation rule =>
    obtain ⟨same, after⟩ := mirrors.lookup implementation rule
    exact ⟨congrArg Reply.told same, after⟩
  | isCached implementation rule =>
    obtain ⟨same, after⟩ := mirrors.lookup implementation rule
    exact ⟨congrArg (fun answer : Lookup => Reply.cached (decide (answer = .hit))) same, after⟩
  | release implementation cacheId => exact ⟨rfl, mirrors.release implementation cacheId⟩
  | clear => exact ⟨rfl, .empty⟩

theorem serveAll (mirrors : Mirrors cache l) (calls : List Call) :
    (Cache.serveAll Cache.serve cache calls).1 = (Cache.serveAll Ledger.serve l calls).1 ∧
      Mirrors (Cache.serveAll Cache.serve cache calls).2 (Cache.serveAll Ledger.serve l calls).2 := by
  induction calls generalizing cache l with
  | nil => exact ⟨rfl, mirrors⟩
  | cons call rest ih =>
    obtain ⟨reply, next⟩ := mirrors.serve call
    obtain ⟨replies, last⟩ := ih next
    exact ⟨congrArg₂ List.cons reply replies, last⟩

end Mirrors

/-- A cache cannot be told from the list of the recorded pairs. -/
theorem serves_as_ledger (calls : List Call) :
    let served := serveAll serve .empty calls
    let kept := serveAll Ledger.serve .empty calls
    served.1 = kept.1 ∧
      (∀ implementation, served.2.cacheIds implementation = kept.2.ids implementation) ∧
      (∀ implementation id, served.2.contains implementation id = true ↔ (implementation, id) ∈ kept.2.pairs) ∧
      served.2.size = kept.2.pairs.length ∧ (served.2.isEmpty = true ↔ kept.2.pairs = []) := by
  intro served kept
  obtain ⟨replies, mirrors⟩ := Mirrors.empty.serveAll calls
  refine ⟨replies, mirrors.ids, mirrors.contains_iff, mirrors.size_eq, ?_⟩
  rw [isEmpty, beq_iff_eq, mirrors.size_eq, List.length_eq_zero_iff]

end BuildGate.Cache
