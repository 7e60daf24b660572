import BuildGate.Proofs.Text.LowerCase

namespace BuildGate.Text

/-- The capitals whose upper-case form is not that of their lower-case form: a dotted I, the Greek theta of formulas,
    the capital sharp s, and the signs of the units ohm, kelvin and angstrom. -/
def loneCapitals : List Nat := [0x130, 0x3f4, 0x1e9e, 0x2126, 0x212a, 0x212b]

def upperCode (n : Nat) : List Nat := (upperExpansions.lookup n).getD [moveBy upperRuns n]

theorem upperChar_eq_map (c : Char) : upperChar c = (upperCode c.toNat).map Char.ofNat := by
  unfold upperChar mapCase upperCode
  cases upperExpansions.lookup c.toNat <;> rfl

theorem CaseRun.move_mono (run : CaseRun) {m n : Nat} (le : m ≤ n) : run.move m ≤ run.move n := by
  simp only [move]
  omega

section Quickly

/- The same upper-case form, found without a look at most of the tables: of the runs only those near the number are
   looked through, and none for a number that stays what it is. -/

def expanding : List Nat := upperExpansions.map Prod.fst

def moving : List Nat := upperRuns.flatMap CaseRun.members

def CaseRun.meets (run : CaseRun) (least most : Nat) : Bool := Nat.ble run.first most && Nat.ble least run.last

def upperNear (least most n : Nat) : List Nat :=
  if (bits expanding).testBit n then upperCode n
  else if (bits moving).testBit n then [moveBy (upperRuns.filter (·.meets least most)) n]
  else [n]

theorem moveBy_filter_meets (runs : List CaseRun) {least most n : Nat} (above : least ≤ n) (below : n ≤ most) :
    moveBy (runs.filter (·.meets least most)) n = moveBy runs n := by
  have near : ∀ run : CaseRun, run.covers n = true → run.meets least most = true := by
    intro run covered
    simp only [CaseRun.covers, Bool.and_eq_true, decide_eq_true_eq] at covered
    simp only [CaseRun.meets, Bool.and_eq_true, Nat.ble_eq]
    omega
  have same : (runs.filter (·.meets least most)).find? (·.covers n) = runs.find? (·.covers n) := by
    rw [List.find?_filter]
    congr 1
    funext run
    rw [Bool.eq_iff_iff, decide_eq_true_iff]
    exact ⟨And.right, fun covered => ⟨near run covered, covered⟩⟩
  rw [moveBy, moveBy, same]

theorem upperNear_eq {least most n : Nat} (above : least ≤ n) (below : n ≤ most) :
    upperNear least most n = upperCode n := by
  unfold upperNear
  simp only [testBit_bits, decide_eq_true_eq]
  split
  · rfl
  · next apart =>
    have whole : upperCode n = [moveBy upperRuns n] := by
      rw [upperCode, lookup_expansions_eq_none apart, Option.getD_none]
    split
    · rw [moveBy_filter_meets upperRuns above below, whole]
    · next fixed => rw [whole, moveBy_eq_self fixed]

end Quickly

structure UpperTables : Prop where
  expanded : ∀ entry ∈ upperExpansions, entry.2 ≠ [] ∧
    ∀ n ∈ entry.2, n.isValidChar ∧ (bits loneCapitals).testBit n = false
  moved : ∀ run ∈ upperRuns, ∀ n ∈ run.members,
    (run.move n).isValidChar ∧ (bits loneCapitals).testBit (run.move n) = false
  back : ∀ run ∈ lowerRuns, ∀ n ∈ run.members, (bits loneCapitals).testBit n = true ∨
    upperNear (run.move run.first) (run.move run.last) (run.move n) = upperNear n n n
  fixed : ∀ n ∈ loneCapitals, upperCode n = [n]
  unreached : ∀ n ∈ loneCapitals, (bits unreached).testBit n = true
  lowered : ∀ n ∈ loneCapitals, (lowerChar (Char.ofNat n)).head? ≠ some (Char.ofNat n)

theorem upperTables : UpperTables where
  expanded := by decide +kernel
  moved := by decide +kernel
  back := by decide +kernel
  fixed := by decide +kernel
  unreached := by decide +kernel
  lowered := by decide +kernel

theorem upperChar_cases (c : Char) :
    upperChar c = [c] ∨ upperChar c ≠ [] ∧ ∀ x ∈ upperChar c, x.toNat ∉ loneCapitals := by
  refine mapCase_cases (P := (· ∉ loneCapitals)) ?_ ?_ c
  · intro entry listed
    obtain ⟨some, images⟩ := upperTables.expanded entry listed
    exact ⟨some, fun n among => ⟨(images n among).1, notMem_of_testBit (images n among).2⟩⟩
  · intro run listed n member
    obtain ⟨valid, outside⟩ := upperTables.moved run listed n member
    exact ⟨valid, notMem_of_testBit outside⟩

theorem upperChar_ne_nil (c : Char) : upperChar c ≠ [] := by
  rcases upperChar_cases c with same | ⟨some, -⟩
  · simp [same]
  · exact some

theorem upperChar_loneCapital {c : Char} (lone : c.toNat ∈ loneCapitals) : upperChar c = [c] := by
  rw [upperChar_eq_map, upperTables.fixed _ lone, List.map_singleton, Char.ofNat_toNat]

theorem head?_lowerChar_loneCapital {c : Char} (lone : c.toNat ∈ loneCapitals) : (lowerChar c).head? ≠ some c := by
  have moved := upperTables.lowered c.toNat lone
  rwa [Char.ofNat_toNat] at moved

theorem eq_of_upperChar_loneCapital {c first : Char} {rest : List Char} (lone : first.toNat ∈ loneCapitals)
    (raised : upperChar c = first :: rest) : c = first := by
  rcases upperChar_cases c with same | ⟨-, outside⟩
  · rw [same] at raised
    exact (List.cons.inj raised).1
  · exact absurd lone (outside first (by simp [raised]))

theorem exists_lowerChar {c : Char} (paired : c.toNat ∉ loneCapitals) :
    ∃ x, lowerChar c = [x] ∧ upperChar x = upperChar c ∧ x.toNat ∉ loneCapitals := by
  have whole : lowerExpansions.lookup c.toNat = none := by
    refine lookup_expansions_eq_none fun listed => paired ?_
    rw [List.mem_singleton.1 listed]
    decide
  rw [lowerChar, mapCase, whole]
  unfold moveBy
  cases found : lowerRuns.find? (·.covers c.toNat) with
  | none => exact ⟨c, by simp, rfl, paired⟩
  | some run =>
    have listed := List.mem_of_find?_eq_some found
    have covered : run.covers c.toNat = true := by simpa using List.find?_some found
    have member := CaseRun.mem_members covered
    obtain ⟨valid, -, outside⟩ := lowerTables.moved run listed _ member
    have image := toNat_ofNat valid
    refine ⟨_, rfl, ?_, ?_⟩
    · have least : run.move run.first ≤ run.move c.toNat := run.move_mono (by simp_all [CaseRun.covers])
      have most : run.move c.toNat ≤ run.move run.last := run.move_mono (by simp_all [CaseRun.covers])
      have same := (upperTables.back run listed _ member).resolve_left (by simpa [testBit_bits] using paired)
      rw [upperNear_eq least most, upperNear_eq (Nat.le_refl _) (Nat.le_refl _)] at same
      rw [upperChar_eq_map, upperChar_eq_map, image, same]
    · intro lone
      rw [image] at lone
      have taken := upperTables.unreached _ lone
      rw [outside] at taken
      cases taken

theorem flatMap_upperChar_lowerChar_iff (c : Char) :
    (lowerChar c).flatMap upperChar = upperChar c ↔ c.toNat ∉ loneCapitals := by
  constructor
  · intro same lone
    obtain ⟨x, more, lowered⟩ := List.exists_cons_of_ne_nil (lowerChar_ne_nil c)
    obtain ⟨first, tail, raised⟩ := List.exists_cons_of_ne_nil (upperChar_ne_nil x)
    rw [upperChar_loneCapital lone, lowered, List.flatMap_cons, raised] at same
    obtain ⟨rfl, -⟩ := List.cons.inj same
    have unmoved : x = first := eq_of_upperChar_loneCapital lone raised
    exact head?_lowerChar_loneCapital lone (by rw [lowered, unmoved, List.head?_cons])
  · intro paired
    obtain ⟨x, lowered, raised, -⟩ := exists_lowerChar paired
    rw [lowered, List.flatMap_singleton, raised]

end BuildGate.Text
