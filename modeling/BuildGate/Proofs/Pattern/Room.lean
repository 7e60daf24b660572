import BuildGate.Pattern.Footprint
import BuildGate.Proofs.Pattern.Spans

namespace BuildGate.Pattern

namespace Outline

def Proper (o : Outline) : Prop := o ≠ empty ∧ ∀ inner, o ≠ concat inner

/-- What simplification gives: choosing between nothing else does not change it, and sequences lie flat. -/
inductive Tidy : Outline → Prop
  | choice {branches : List Outline}
      (stable : ∀ rounds, Outline.choice (rounds + 1) [alternate branches] = alternate branches)
    (tidy : ∀ branch ∈ branches, Tidy branch) : Tidy (alternate branches)
  | sequence {items : List Outline} (tidy : ∀ item ∈ items, Tidy item)
    (proper : ∀ item ∈ items, item.Proper) : Tidy (concat items)
  | other {o : Outline} (noSequence : ∀ items, o ≠ concat items) (noChoice : ∀ branches, o ≠ alternate branches) :
      Tidy o

def ways : Outline → List Outline
  | alternate inner => inner
  | branch => [branch]

theorem choice_succ (rounds : Nat) (branches : List Outline) :
    choice (rounds + 1) branches =
      match branches.flatMap ways, ((branches.flatMap ways).mapM char?).or ((branches.flatMap ways).mapM set?),
        items? (branches.flatMap ways) with
      | [branch], _, _ => branch
      | _, some sets, _ => ofSet (.unions sets)
      | _, none, some (first :: others) =>
        let shared := others.foldl (fun n items => min n (sharedLength first items)) first.length
        if shared = 0 then alternate (branches.flatMap ways)
        else
          sequence (first.take shared
            ++ [choice rounds ((first :: others).map fun items => sequence (items.drop shared))])
      | _, _, _ => alternate (branches.flatMap ways) := by
  simp only [choice]
  rfl

theorem ways_eq {o : Outline} (noChoice : ∀ branches, o ≠ alternate branches) : o.ways = [o] := by
  cases o with
  | alternate branches => exact absurd rfl (noChoice branches)
  | _ => rfl

theorem choice_only {o : Outline} (noChoice : ∀ branches, o ≠ alternate branches) (rounds : Nat) :
    choice (rounds + 1) [o] = o := by
  have same : [o].flatMap ways = [o] := (List.append_nil _).trans (ways_eq noChoice)
  rw [choice_succ, same]

theorem Tidy.choice_only {o : Outline} (tidy : Tidy o) (rounds : Nat) : Outline.choice (rounds + 1) [o] = o := by
  cases tidy with
  | choice stable => exact stable rounds
  | sequence => exact Outline.choice_only (by simp) rounds
  | other _ noChoice => exact Outline.choice_only noChoice rounds

theorem Tidy.alternatives {o : Outline} (tidy : Tidy o) : Outline.alternatives [o] = o := tidy.choice_only _

theorem tidy_cons {item : Outline} {rest : List Outline} (tidy : Tidy item) (flat : ∀ inner, item ≠ concat inner)
    (rests : ∀ i ∈ rest, Tidy i ∧ i.Proper) :
    ∀ i ∈ cons item rest, Tidy i ∧ i.Proper := by
  unfold cons
  split
  · exact rests
  · intro i among
    rcases List.mem_cons.1 among with rfl | later
    · exact ⟨.other (by simp) (by simp), by simp [Proper]⟩
    · exact rests i (List.mem_cons_of_mem _ later)
  · rename_i proper _
    intro i among
    rcases List.mem_cons.1 among with rfl | later
    · exact ⟨tidy, proper, flat⟩
    · exact rests i later

def parts : Outline → List Outline
  | concat inner => inner
  | item => [item]

theorem parts_eq {o : Outline} (noSequence : ∀ items, o ≠ concat items) : o.parts = [o] := by
  cases o with
  | concat items => exact absurd rfl (noSequence items)
  | _ => rfl

theorem sequence_eq (items : List Outline) :
    sequence items = match (items.flatMap parts).foldr cons [] with
      | [] => empty
      | [item] => item
      | items => concat items := by
  simp only [sequence]
  rfl

theorem tidy_parts {o : Outline} (tidy : Tidy o) : ∀ i ∈ o.parts, Tidy i ∧ ∀ inner, i ≠ concat inner := by
  cases tidy with
  | choice stable tidy =>
    intro i among
    cases List.mem_singleton.1 among
    exact ⟨.choice stable tidy, by simp⟩
  | sequence tidy proper => exact fun i among => ⟨tidy i among, (proper i among).2⟩
  | other noSequence noChoice =>
    intro i among
    rw [parts_eq noSequence] at among
    cases List.mem_singleton.1 among
    exact ⟨.other noSequence noChoice, noSequence⟩

theorem tidy_sequence {items : List Outline} (tidy : ∀ item ∈ items, Tidy item) : Tidy (sequence items) := by
  have joined : ∀ flat : List Outline, (∀ i ∈ flat, Tidy i ∧ ∀ inner, i ≠ concat inner) →
      ∀ i ∈ flat.foldr cons [], Tidy i ∧ i.Proper := by
    intro flat proper
    induction flat with
    | nil => simp
    | cons item rest ih =>
      exact tidy_cons (proper item List.mem_cons_self).1 (proper item List.mem_cons_self).2
        (ih fun i among => proper i (List.mem_cons_of_mem _ among))
  have proper := joined (items.flatMap parts) fun i among => by
    obtain ⟨item, member, within⟩ := List.mem_flatMap.1 among
    exact tidy_parts (tidy item member) i within
  rw [sequence_eq]
  split
  · exact .other (by simp) (by simp)
  · rename_i item only
    exact (proper item (by rw [only]; exact List.mem_singleton_self _)).1
  · exact .sequence (fun i among => (proper i among).1) fun i among => (proper i among).2

theorem weights_append (items more : List Outline) : weights (items ++ more) = weights items + weights more := by
  induction items with
  | nil => simp [weights]
  | cons item items ih => simp only [List.cons_append, weights, ih]; omega

theorem weight_pos (o : Outline) : 0 < o.weight := by
  cases o <;> simp [weight]

theorem weights_cons_le (item : Outline) (rest : List Outline) :
    weights (cons item rest) ≤ item.weight + weights rest := by
  unfold cons
  split
  · omega
  · simp only [weights, weight]
    omega
  · exact Nat.le_refl _

theorem weights_flatMap_le {f : Outline → List Outline} (least : ∀ o, weights (f o) ≤ o.weight) (items : List Outline) :
    weights (items.flatMap f) ≤ weights items := by
  induction items with
  | nil => exact Nat.le_refl _
  | cons item items ih =>
    have part := least item
    simp only [List.flatMap_cons, weights_append, weights]
    omega

theorem weights_parts_le (o : Outline) : weights o.parts ≤ o.weight := by
  cases o <;> simp [parts, weights, weight]

theorem weight_sequence_le (items : List Outline) : (sequence items).weight ≤ weights items + 1 := by
  have joined : ∀ flat : List Outline, weights (flat.foldr cons []) ≤ weights flat := by
    intro flat
    induction flat with
    | nil => exact Nat.le_refl _
    | cons item flat ih =>
      have more := weights_cons_le item (flat.foldr cons [])
      simp only [List.foldr_cons, weights]
      omega
  have whole := Nat.le_trans (joined _) (weights_flatMap_le weights_parts_le items)
  rw [sequence_eq]
  split
  · simp [weight]
  · rename_i item only
    rw [only, weights, weights] at whole
    omega
  · simp only [weight]
    omega

theorem items?_eq {branches : List Outline} {sequences : List (List Outline)} (all : items? branches = some sequences) :
    branches = sequences.map concat := by
  induction branches generalizing sequences with
  | nil => cases all; rfl
  | cons branch branches ih =>
    cases branch with
    | concat items =>
      simp only [items?, Option.map_eq_some_iff] at all
      obtain ⟨others, same, rfl⟩ := all
      rw [ih same]
      rfl
    | _ => simp [items?] at all

theorem sharedLength_le (items others : List Outline) : sharedLength items others ≤ others.length := by
  induction items generalizing others with
  | nil => simp [sharedLength]
  | cons item items ih =>
    cases others with
    | nil => simp [sharedLength]
    | cons other others =>
      simp only [sharedLength]
      split
      · exact Nat.succ_le_succ (ih others)
      · exact Nat.zero_le _

theorem shared_le (first : List Outline) (others : List (List Outline)) {items : List Outline}
    (among : items ∈ first :: others) :
    others.foldl (fun n items => min n (sharedLength first items)) first.length ≤ items.length := by
  have bound : ∀ (others : List (List Outline)) (n : Nat),
      others.foldl (fun n items => min n (sharedLength first items)) n ≤ n ∧
      ∀ items ∈ others, others.foldl (fun n items => min n (sharedLength first items)) n ≤ items.length := by
    intro others
    induction others with
    | nil => simp
    | cons other others ih =>
      intro n
      obtain ⟨least, all⟩ := ih (min n (sharedLength first other))
      refine ⟨by simp only [List.foldl_cons]; omega, fun items among => ?_⟩
      rcases List.mem_cons.1 among with rfl | later
      · have := sharedLength_le first items
        simp only [List.foldl_cons]
        omega
      · exact all items later
  obtain ⟨least, all⟩ := bound others first.length
  rcases List.mem_cons.1 among with rfl | later
  · exact least
  · exact all items later

theorem weights_drop_lt {shared : Nat} (some : shared ≠ 0) {sequences : List (List Outline)} (nonempty : sequences ≠ [])
    (enough : ∀ items ∈ sequences, shared ≤ items.length) :
    weights (sequences.map fun items => sequence (items.drop shared)) < weights (sequences.map concat) := by
  have one : ∀ items : List Outline, shared ≤ items.length →
      (sequence (items.drop shared)).weight < (concat items).weight := by
    intro items long
    obtain ⟨item, rest, rfl⟩ := List.exists_cons_of_length_pos (Nat.lt_of_lt_of_le (Nat.pos_of_ne_zero some) long)
    obtain ⟨shared, rfl⟩ := Nat.exists_eq_succ_of_ne_zero some
    have parts := weight_sequence_le (rest.drop shared)
    have split := weights_append (rest.take shared) (rest.drop shared)
    have pos := weight_pos item
    rw [List.take_append_drop] at split
    simp only [List.drop_succ_cons, weight, weights]
    omega
  induction sequences with
  | nil => exact absurd rfl nonempty
  | cons items sequences ih =>
    have first := one items (enough items List.mem_cons_self)
    simp only [List.map_cons, weights]
    cases sequences with
    | nil => simpa [weights] using first
    | cons items' sequences =>
      have later := ih (by simp) fun items among => enough items (List.mem_cons_of_mem _ among)
      omega

theorem weights_ways_le (o : Outline) : weights o.ways ≤ o.weight := by
  cases o <;> simp [ways, weights, weight]

theorem tidy_ways {o : Outline} (tidy : Tidy o) : ∀ branch ∈ o.ways, Tidy branch := by
  cases tidy with
  | choice _ inner => exact inner
  | sequence items proper =>
    intro branch among
    cases List.mem_singleton.1 among
    exact .sequence items proper
  | other noSequence noChoice =>
    intro branch among
    rw [ways_eq noChoice] at among
    cases List.mem_singleton.1 among
    exact .other noSequence noChoice

/-- An alternation that was left over is left again: its branches lie flat already, and none of the cases in which they
    are put together applies. -/
theorem tidy_choice {rounds : Nat} {branches : List Outline} (enough : weights branches < rounds)
    (tidy : ∀ branch ∈ branches, Tidy branch) : Tidy (choice rounds branches) := by
  -- The rounds suffice, as the branches behind a common beginning have fewer parts.
  induction rounds generalizing branches with
  | zero => omega
  | succ rounds ih =>
    have flat : ∀ branch ∈ branches.flatMap ways, Tidy branch := fun branch among => by
      obtain ⟨outer, member, within⟩ := List.mem_flatMap.1 among
      exact tidy_ways (tidy outer member) branch within
    have fewer := weights_flatMap_le weights_ways_le branches
    have again : ∀ bs : List Outline, [alternate bs].flatMap ways = bs := fun bs => List.append_nil bs
    rw [choice_succ]
    generalize branches.flatMap ways = bs at flat fewer ⊢
    split
    · rename_i only _ _
      exact flat _ List.mem_cons_self
    · unfold ofSet
      split <;> exact .other (by simp) (by simp)
    · rename_i bs _ _ _ first others notOnly noSets all
      have shape := items?_eq all
      dsimp only
      split
      · rename_i nothing
        refine .choice (fun rounds => ?_) flat
        rw [choice_succ, again]
        split
        · exact absurd rfl (notOnly _)
        · rename_i some
          rw [noSets] at some
          cases some
        · rename_i _ _ same
          rw [all] at same
          cases same
          simp only [nothing, ↓reduceIte]
        · rfl
      · rename_i something
        have items : ∀ sequence ∈ first :: others, ∀ item ∈ sequence, Tidy item := by
          intro sequence among item member
          cases flat (concat sequence) (shape ▸ List.mem_map_of_mem among) with
          | sequence tidy _ => exact tidy item member
          | other noSequence _ => exact absurd rfl (noSequence sequence)
        have less := weights_drop_lt something (List.cons_ne_nil first others) fun _ => shared_le first others
        refine tidy_sequence fun item among => ?_
        rcases List.mem_append.1 among with leading | last
        · exact items first List.mem_cons_self item (List.mem_of_mem_take leading)
        · cases List.mem_singleton.1 last
          refine ih (by rw [← shape] at less; omega) fun branch among => ?_
          obtain ⟨sequence, member, rfl⟩ := List.mem_map.1 among
          exact tidy_sequence fun item within => items sequence member item (List.mem_of_mem_drop within)
    · rename_i notOnly noSets notAll
      refine .choice (fun rounds => ?_) flat
      rw [choice_succ, again]
      split
      · exact absurd rfl (notOnly _)
      · rename_i some
        exact absurd some (noSets _)
      · rename_i none all
        exact absurd all (notAll _ _ none)
      · rfl

theorem tidy_alternatives {branches : List Outline} (tidy : ∀ branch ∈ branches, Tidy branch) :
    Tidy (alternatives branches) :=
  tidy_choice (Nat.lt_succ_self _) tidy

theorem tidy_branches (p : Pattern) : ∀ branch ∈ branches p, Tidy branch := by
  have only : ∀ {o : Outline}, Tidy o → ∀ branch ∈ [o], Tidy branch := fun tidy branch among =>
    List.mem_singleton.1 among ▸ tidy
  induction p with
  | empty | look => exact only (.other (by simp) (by simp))
  | one set =>
    refine only ?_
    unfold ofSet
    split <;> exact .other (by simp) (by simp)
  | group number inner ih =>
    cases number with
    | none => exact only (tidy_alternatives ih)
    | some number => exact only (.other (by simp) (by simp))
  | concat first second ih ih' =>
    refine only (tidy_sequence fun item among => ?_)
    rcases List.mem_cons.1 among with rfl | last
    · exact tidy_alternatives ih
    · exact List.mem_singleton.1 last ▸ tidy_alternatives ih'
  | alternate first second ih ih' => exact fun branch among => (List.mem_append.1 among).elim (ih branch) (ih' branch)
  | repeated inner least most reluctant ih =>
    have within : ∀ least most, Tidy (if least = 0 ∧ most = some 0 then empty
        else if least = 1 ∧ most = some 1 then alternatives (branches inner)
        else repeated (alternatives (branches inner)) least most reluctant) := by
      intro least most
      split
      · exact .other (by simp) (by simp)
      · split
        · exact tidy_alternatives ih
        · exact .other (by simp) (by simp)
    exact only (within _ _)

theorem tidy_ofPattern (p : Pattern) : Tidy (ofPattern p) := tidy_alternatives (tidy_branches p)

theorem tidy_look (l : Look) : Tidy (look l) := .other (by simp) (by simp)

theorem tidy_pair {first second : Outline} (tidy : Tidy first) (tidy' : Tidy second) :
    Tidy (sequence [first, second]) :=
  tidy_sequence fun item among => by
    rcases List.mem_cons.1 among with rfl | last
    · exact tidy
    · exact List.mem_singleton.1 last ▸ tidy'

theorem ofPattern_bounded (p : Pattern) :
    ofPattern p.bounded = sequence [look .textStart, sequence [ofPattern p, look .textEnd]] := by
  have single : ∀ l, alternatives [look l] = look l := fun l => (tidy_look l).alternatives
  have behind : sequence [look .textEnd, alternatives [empty]] = look .textEnd := rfl
  have inner : Tidy (sequence [ofPattern p, look .textEnd]) := tidy_pair (tidy_ofPattern p) (tidy_look _)
  have outer : Tidy (sequence [look .textStart, sequence [ofPattern p, look .textEnd]]) := tidy_pair (tidy_look _) inner
  have form : ofPattern p.bounded = alternatives [sequence [alternatives [look .textStart], alternatives
      [sequence [alternatives [ofPattern p], alternatives
        [sequence [alternatives [look .textEnd], alternatives [empty]]]]]]] := rfl
  rw [form, single, single, behind, single, (tidy_ofPattern p).alternatives, inner.alternatives, outer.alternatives]

end Outline

namespace Footprint

open Outline

variable (direction : Direction)

theorem sizes_cons_ge (item : Outline) (rest : List Outline) :
    sizes direction rest ≤ sizes direction (cons item rest) := by
  unfold cons
  split
  · exact Nat.le_refl _
  · simp only [sizes, size, List.length_append, Nat.mul_add]
    omega
  · simp only [sizes]
    omega

theorem sizes_cons {item : Outline} (something : item ≠ .empty) (rest : List Outline) :
    sizes direction (cons item rest) = size direction item + sizes direction rest := by
  unfold cons
  split
  · exact absurd rfl something
  · simp only [sizes, size, List.length_append, Nat.mul_add, Nat.add_assoc]
  · rfl

theorem sizes_le_joined {items flat : List Outline} (among : items.Sublist flat)
    (something : ∀ item ∈ items, item ≠ .empty) :
    sizes direction items ≤ sizes direction (flat.foldr cons []) := by
  induction among with
  | slnil => exact Nat.le_refl _
  | cons item _ ih => exact Nat.le_trans (ih something) (sizes_cons_ge direction item _)
  | cons_cons item _ ih =>
    have rest := ih fun item among => something item (List.mem_cons_of_mem _ among)
    rw [List.foldr_cons, sizes_cons direction (something item List.mem_cons_self), sizes]
    omega

theorem size_le_sequence {o : Outline} (tidy : Tidy o) (something : o ≠ .empty) {items : List Outline}
    (among : o ∈ items) :
    size direction o ≤ size direction (sequence items) := by
  have proper : ∀ item ∈ o.parts, item ≠ .empty := by
    cases tidy with
    | sequence _ parts => exact fun item among => (parts item among).1
    | choice => exact fun item among => List.mem_singleton.1 among ▸ something
    | other noSequence =>
      exact fun item among => List.mem_singleton.1 (parts_eq noSequence ▸ among) ▸ something
  have own : size direction o ≤ sizes direction o.parts := by cases o <;> simp [parts, sizes, size]
  have part : o.parts.Sublist (items.flatMap parts) :=
    List.sublist_flatten_of_mem (List.mem_map_of_mem among)
  have joined := Nat.le_trans own (sizes_le_joined direction part proper)
  rw [sequence_eq]
  split
  · rename_i none
    rw [none] at joined
    exact Nat.le_trans joined (Nat.zero_le _)
  · rename_i item only
    rw [only] at joined
    exact joined
  · exact joined

theorem size_le_bounded (p : Pattern) : size direction (ofPattern p) ≤ size direction (ofPattern p.bounded) := by
  have beside : ∀ {o}, Tidy o → ∀ l, size direction o ≤ size direction (sequence [o, .look l]) ∧
      size direction o ≤ size direction (sequence [.look l, o]) := by
    intro o tidy l
    by_cases nothing : o = .empty
    · subst nothing
      exact ⟨Nat.le_refl _, Nat.le_refl _⟩
    · exact ⟨size_le_sequence direction tidy nothing (by simp), size_le_sequence direction tidy nothing (by simp)⟩
  have inner : Tidy (sequence [ofPattern p, .look .textEnd]) := tidy_pair (tidy_ofPattern p) (tidy_look _)
  rw [ofPattern_bounded]
  exact Nat.le_trans (beside (tidy_ofPattern p) .textEnd).1 (beside inner .textStart).2

theorem fits_of_bounded {p : Pattern} (room : fits p.bounded = true) : fits p = true := by
  have forward := size_le_bounded .forward p
  have backward := size_le_bounded .backward p
  simp only [fits, Bool.and_eq_true, decide_eq_true_eq] at room ⊢
  simp only [program, size] at room ⊢
  omega

end Footprint

end BuildGate.Pattern
