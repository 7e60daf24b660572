import BuildGate.Proofs.Parallel.Onward

namespace BuildGate

inductive Phase where
  | idle
  | opened
  | handedOver
  | closed

def Phase.isHeld : Phase → Bool
  | .opened | .handedOver => true
  | .idle | .closed => false

def declares (descriptors : List Descriptor) (check : Check) : Bool :=
  descriptors.any fun d => d.check? == some check

@[simp] theorem declares_nil (check : Check) : declares [] check = false := rfl

@[simp] theorem declares_cons (d : Descriptor) (rest : List Descriptor) (check : Check) :
    declares (d :: rest) check = (d.check? == some check || declares rest check) := rfl

@[simp] theorem declares_append (left right : List Descriptor) (check : Check) :
    declares (left ++ right) check = (declares left check || declares right check) := List.any_append

theorem declares_iff {descriptors : List Descriptor} {check : Check} :
    declares descriptors check = true ↔ ∃ d ∈ descriptors, d.check? = some check := by
  simp [declares]

theorem declares_other (done : List Descriptor) (d : Descriptor) (check : Check)
    (other : d.check? ≠ some check) : declares (done ++ [d]) check = declares done check := by
  simp [other]

theorem declares_grows (done : List Descriptor) (d : Descriptor) (check : Check)
    (earlier : declares done check = true) : declares (done ++ [d]) check = true := by
  simp [earlier]

theorem exists_last {descriptors : List Descriptor} {check : Check} (declared : declares descriptors check = true) :
    ∃ before d after, descriptors = before ++ d :: after ∧ d.check? = some check ∧
      declares after check = false := by
  induction descriptors with
  | nil => cases declared
  | cons first rest ih =>
    cases later : declares rest check with
    | true =>
      obtain ⟨before, d, after, split, named, last⟩ := ih later
      exact ⟨first :: before, d, after, by rw [split, List.cons_append], named, last⟩
    | false =>
      rw [declares_cons, later, Bool.or_false, beq_iff_eq] at declared
      exact ⟨[], first, rest, rfl, declared, later⟩

section Hidden

variable {descriptors : List Descriptor} {ctx : Context}

theorem declares_critical (k : Critical descriptors ctx) : declares descriptors k.1 = true := by
  obtain ⟨d, member, named⟩ := List.mem_filterMap.1 k.2
  exact declares_iff.2 ⟨d, (List.mem_filter.1 member).1, named⟩

theorem critical_of_breaks {d : Descriptor} (listed : d ∈ descriptors) (breaks : d.breaks ctx = true)
    {check : Check} (named : d.check? = some check) : check ∈ criticalChecks descriptors ctx :=
  List.mem_filterMap.2 ⟨d, List.mem_filter.2 ⟨listed, breaks⟩, named⟩

theorem exists_critical (hidden : ¬ Exposed descriptors ctx) {d : Descriptor} (listed : d ∈ descriptors)
    (breaks : d.breaks ctx = true) : ∃ k : Critical descriptors ctx, d.check? = some k.1 := by
  cases named : d.check? with
  | some check => exact ⟨⟨check, critical_of_breaks listed breaks named⟩, rfl⟩
  | none =>
    obtain ⟨before, after, split⟩ := List.append_of_mem listed
    refine absurd ⟨before, d, after, split, breaks, .inl fun e _ same => ?_⟩ hidden
    obtain ⟨check, some, -⟩ := same
    cases named.symm.trans some

theorem calm_at_edge (hidden : ¬ Exposed descriptors ctx) {before after : List Descriptor} {d : Descriptor}
    {check : Check} (split : descriptors = before ++ d :: after) (named : d.check? = some check)
    (edge : declares before check = false ∨ declares after check = false) : d.breaks ctx = false := by
  cases breaks : d.breaks ctx with
  | false => rfl
  | true =>
    have apart : ∀ side : List Descriptor, declares side check = false → ∀ e ∈ side, ¬ d.SameCheck e := by
      rintro side none e member ⟨other, same, shared⟩
      cases named.symm.trans same
      rw [declares_iff.2 ⟨e, member, shared⟩] at none
      cases none
    exact absurd ⟨before, d, after, split, breaks, edge.imp (apart before) (apart after)⟩ hidden

end Hidden

def Stage.Opens (descriptors : List Descriptor) (ctx : Context) (check : Check) (stage : Stage) : Phase → Prop
  | .idle => stage.At descriptors
  | .opened => ∃ rest, rest <:+ descriptors ∧ stage.Keeps ctx check rest
  | .handedOver | .closed => stage.EndedWell

def Stage.Closes (descriptors : List Descriptor) (ctx : Context) (check : Check) (stage : Stage) : Phase → Prop
  | .idle | .opened => stage.At descriptors
  | .handedOver => ∃ rest, rest <:+ descriptors ∧ declares rest check = false ∧ stage.Keeps ctx check rest
  | .closed => stage.EndedWell

namespace Crew

variable {options : Options} {ctx : Context} {descriptors : List Descriptor}

abbrev Pairs (descriptors : List Descriptor) (ctx : Context) : Type :=
  Crew (Critical descriptors ctx × Bool)

abbrev opener (k : Critical descriptors ctx) : Critical descriptors ctx × Bool := (k, false)

abbrev closer (k : Critical descriptors ctx) : Critical descriptors ctx × Bool := (k, true)

structure Standing (phase : Critical descriptors ctx → Phase) (crew : Pairs descriptors ctx) : Prop where
  known : ∀ k, crew.cache.knows k.1 = (phase k).isHeld
  opens : ∀ k, (crew.stage (opener k)).Opens descriptors ctx k.1 (phase k)
  closes : ∀ k, (crew.stage (closer k)).Closes descriptors ctx k.1 (phase k)

theorem Standing.turn {phase : Critical descriptors ctx → Phase} {crew next : Pairs descriptors ctx}
    (standing : crew.Standing phase) {k : Critical descriptors ctx} {turned : Phase}
    (held : next.cache.knows k.1 = turned.isHeld)
    (known : ∀ j, j ≠ k → next.cache.knows j.1 = crew.cache.knows j.1)
    (others : ∀ j, j ≠ k → ∀ role, next.stage (j, role) = crew.stage (j, role))
    (opens : (next.stage (opener k)).Opens descriptors ctx k.1 turned)
    (closes : (next.stage (closer k)).Closes descriptors ctx k.1 turned) :
    next.Standing (Function.update phase k turned) := by
  constructor
  · intro j
    by_cases same : j = k
    · subst same
      rwa [Function.update_self]
    · rw [Function.update_of_ne same, known j same]
      exact standing.known j
  · intro j
    by_cases same : j = k
    · subst same
      rwa [Function.update_self]
    · rw [Function.update_of_ne same, others j same]
      exact standing.opens j
  · intro j
    by_cases same : j = k
    · subst same
      rwa [Function.update_self]
    · rw [Function.update_of_ne same, others j same]
      exact standing.closes j

theorem covered_of_standing (hidden : ¬ Exposed descriptors ctx) {phase : Critical descriptors ctx → Phase}
    {crew : Pairs descriptors ctx} (standing : crew.Standing phase) {part : List Descriptor}
    (listed : ∀ d ∈ part, d ∈ descriptors)
    (held : ∀ k : Critical descriptors ctx, declares part k.1 = true → (phase k).isHeld = true) :
    ∀ d ∈ part, d.breaks ctx = true →
      ∃ k : Critical descriptors ctx, d.check? = some k.1 ∧ crew.cache.knows k.1 = true := by
  intro d member breaks
  obtain ⟨k, named⟩ := exists_critical hidden (listed d member) breaks
  exact ⟨k, named, (standing.known k).trans (held k (declares_iff.2 ⟨d, member, named⟩))⟩

theorem Standing.open (uniform : Uniform {ctx} descriptors) (asks : options.ignoreCache = false)
    (hidden : ¬ Exposed descriptors ctx) {phase : Critical descriptors ctx → Phase}
    {crew : Pairs descriptors ctx} (standing : crew.Standing phase) {before after : List Descriptor}
    {d : Descriptor} (split : descriptors = before ++ d :: after) {k : Critical descriptors ctx}
    (named : d.check? = some k.1) (first : declares before k.1 = false) (idle : phase k = .idle)
    (held : ∀ j : Critical descriptors ctx, declares before j.1 = true → (phase j).isHeld = true) :
    ∃ next, Reaches options (fun _ => ctx) crew next ∧ next.Standing (Function.update phase k .opened) := by
  have listedBefore : ∀ e ∈ before, e ∈ descriptors := fun e member => by simp [split, member]
  have listedAfter : ∀ e ∈ d :: after, e ∈ descriptors := fun e member => split ▸ List.mem_append_right _ member
  have opens := standing.opens k
  have closes := standing.closes k
  have unknown := standing.known k
  rw [idle] at opens closes unknown
  have here : (crew.stage (opener k)).At (before ++ d :: after) := split ▸ opens
  obtain ⟨middle, onward, place, same⟩ := glide uniform asks before listedBefore here
    (covered_of_standing hidden standing listedBefore held)
  obtain ⟨next, further, keeps, record⟩ := reserve uniform asks listedAfter place named
    (calm_at_edge hidden split named (.inl first)) ((same k).trans unknown)
  have whole := onward.trans further
  refine ⟨next, whole.reaches, standing.turn ?_ ?_ ?_ ?_ ?_⟩
  · exact (record k.1).2 (.inl rfl)
  · intro j other
    rw [← same j, Bool.eq_iff_iff, record]
    simp [Subtype.val_inj, other]
  · intro j other role
    exact whole.others _ fun equal => other (congrArg Prod.fst equal)
  · exact ⟨after, ⟨before ++ [d], by simp [split]⟩, keeps⟩
  · rw [whole.others (closer k) (by simp)]
    exact closes

theorem Standing.handOver (uniform : Uniform {ctx} descriptors) (asks : options.ignoreCache = false)
    (hidden : ¬ Exposed descriptors ctx) {phase : Critical descriptors ctx → Phase}
    {crew : Pairs descriptors ctx} (standing : crew.Standing phase) {k : Critical descriptors ctx}
    (opened : phase k = .opened) (held : ∀ j, (phase j).isHeld = true) :
    ∃ next, Reaches options (fun _ => ctx) crew next ∧
      next.Standing (Function.update phase k .handedOver) := by
  obtain ⟨before, d, after, split, named, last⟩ := exists_last (declares_critical k)
  have listedBefore : ∀ e ∈ before, e ∈ descriptors := fun e member => by simp [split, member]
  have listedAfter : ∀ e ∈ d :: after, e ∈ descriptors := fun e member => split ▸ List.mem_append_right _ member
  have opens := standing.opens k
  have closes := standing.closes k
  rw [opened] at opens closes
  obtain ⟨rest, suffix, keeps⟩ := opens
  have listedRest : ∀ e ∈ rest, e ∈ descriptors := fun e member => suffix.subset member
  have apart : opener k ≠ closer k := by simp
  have here : (crew.stage (closer k)).At (before ++ d :: after) := split ▸ closes
  obtain ⟨first, glided, place, same⟩ := glide uniform asks before listedBefore here
    (covered_of_standing hidden standing listedBefore fun j _ => held j)
  obtain ⟨second, gave, waits, release⟩ := giveUp uniform asks listedRest
    ((glided.others _ apart).symm ▸ keeps)
  have unknown : second.cache.knows k.1 = false := by
    rw [Bool.eq_false_iff, ne_eq, release]
    exact fun both => both.1 rfl
  obtain ⟨third, took, takes, record⟩ := reserve uniform asks listedAfter
    ((gave.others _ apart.symm).symm ▸ place) named (calm_at_edge hidden split named (.inr last)) unknown
  have known : ∀ j : Critical descriptors ctx, third.cache.knows j.1 = true := by
    intro j
    by_cases equal : j = k
    · exact (record j.1).2 (.inl (congrArg Subtype.val equal))
    · have different : j.1 ≠ k.1 := fun values => equal (Subtype.ext values)
      have before : first.cache.knows j.1 = true := (same j).trans ((standing.known j).trans (held j))
      exact (record j.1).2 (.inr ((release j.1).2 ⟨different, before⟩))
  have waiting : (third.stage (opener k)).At rest := (took.others _ apart).symm ▸ waits
  have covered : ∀ e ∈ rest, e.breaks ctx = true →
      ∃ j : Critical descriptors ctx, e.check? = some j.1 ∧ third.cache.knows j.1 = true := by
    intro e member breaks
    obtain ⟨j, check⟩ := exists_critical hidden (listedRest e member) breaks
    exact ⟨j, check, known j⟩
  obtain ⟨next, left, well, still⟩ := glide_out uniform asks listedRest waiting covered
  refine ⟨next, ?_, standing.turn ((still k).trans (known k)) ?_ ?_ well ?_⟩
  · exact glided.reaches.trans (gave.reaches.trans (took.reaches.trans left.reaches))
  · intro j _
    rw [still j, known j, standing.known j, held j]
  · intro j other role
    have strange : ∀ side, (j, role) ≠ (k, side) := fun side equal => other (congrArg Prod.fst equal)
    rw [left.others _ (strange _), took.others _ (strange _), gave.others _ (strange _),
      glided.others _ (strange _)]
  · rw [left.others _ apart.symm]
    exact ⟨after, ⟨before ++ [d], by simp [split]⟩, last, takes⟩

theorem Standing.close (uniform : Uniform {ctx} descriptors) (asks : options.ignoreCache = false)
    (hidden : ¬ Exposed descriptors ctx) {phase : Critical descriptors ctx → Phase}
    {crew : Pairs descriptors ctx} (standing : crew.Standing phase) {k : Critical descriptors ctx}
    (handedOver : phase k = .handedOver)
    (held : ∀ rest, rest <:+ descriptors → declares rest k.1 = false →
      ∀ j : Critical descriptors ctx, declares rest j.1 = true → (phase j).isHeld = true) :
    ∃ next, Reaches options (fun _ => ctx) crew next ∧ next.Standing (Function.update phase k .closed) := by
  have opens := standing.opens k
  have closes := standing.closes k
  rw [handedOver] at opens closes
  obtain ⟨rest, suffix, last, keeps⟩ := closes
  have listed : ∀ e ∈ rest, e ∈ descriptors := fun e member => suffix.subset member
  obtain ⟨first, gave, waits, release⟩ := giveUp uniform asks listed keeps
  have covered : ∀ e ∈ rest, e.breaks ctx = true →
      ∃ j : Critical descriptors ctx, e.check? = some j.1 ∧ first.cache.knows j.1 = true := by
    intro e member breaks
    obtain ⟨j, named, known⟩ :=
      covered_of_standing hidden standing listed (held rest suffix last) e member breaks
    refine ⟨j, named, (release j.1).2 ⟨?_, known⟩⟩
    intro equal
    rw [equal] at named
    rw [declares_iff.2 ⟨e, member, named⟩] at last
    cases last
  obtain ⟨next, left, well, known⟩ := glide_out uniform asks listed waits covered
  have whole := gave.trans left
  refine ⟨next, whole.reaches, standing.turn ?_ ?_ ?_ ?_ well⟩
  · rw [known k, Phase.isHeld, Bool.eq_false_iff, ne_eq, release]
    exact fun both => both.1 rfl
  · intro j other
    rw [known j, Bool.eq_iff_iff, release]
    simp [Subtype.val_inj, other]
  · intro j other role
    exact whole.others _ fun equal => other (congrArg Prod.fst equal)
  · rw [whole.others (opener k) (by simp)]
    exact opens

end Crew

end BuildGate
