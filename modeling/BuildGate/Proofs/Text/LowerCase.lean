import BuildGate.Text.Blank
import BuildGate.Text.Case

namespace BuildGate.Text

/-- A set of numbers by its characteristic number, in which a check of many numbers is quick. -/
def bits (ns : List Nat) : Nat := ns.foldr (fun n set => 1 <<< n ||| set) 0

theorem testBit_bits (ns : List Nat) (n : Nat) : (bits ns).testBit n = decide (n ∈ ns) := by
  induction ns with
  | nil => simp [bits]
  | cons m rest ih =>
    have unfolded : bits (m :: rest) = 1 <<< m ||| bits rest := rfl
    rw [unfolded, Nat.testBit_or, ih, Nat.one_shiftLeft, Nat.testBit_two_pow]
    simp [eq_comm]

theorem notMem_of_testBit {ns : List Nat} {n : Nat} (outside : (bits ns).testBit n = false) : n ∉ ns := by
  simpa [testBit_bits] using outside

theorem CaseRun.mem_members {run : CaseRun} {n : Nat} (covered : run.covers n = true) : n ∈ run.members := by
  simp only [covers, Bool.and_eq_true, decide_eq_true_eq, beq_iff_eq] at covered
  obtain ⟨⟨least, most⟩, stepped⟩ := covered
  have exact : run.step * ((n - run.first) / run.step) = n - run.first :=
    Nat.mul_div_cancel' (Nat.dvd_of_mod_eq_zero stepped)
  have inside : (n - run.first) / run.step ≤ (run.last - run.first) / run.step :=
    Nat.div_le_div_right (by omega)
  rw [members, List.mem_map]
  exact ⟨(n - run.first) / run.step, List.mem_range.2 (by omega), by omega⟩

def blanks : List Nat :=
  [0x9, 0xa, 0xb, 0xc, 0xd, 0x20, 0x85, 0xa0, 0x1680, 0x2000, 0x2001, 0x2002, 0x2003, 0x2004, 0x2005, 0x2006,
   0x2007, 0x2008, 0x2009, 0x200a, 0x2028, 0x2029, 0x202f, 0x205f, 0x3000]

theorem mem_blanks {c : Char} (blank : isBlank c = true) : c.toNat ∈ blanks := by
  simp only [isBlank, Bool.or_eq_true, Bool.and_eq_true, decide_eq_true_eq, beq_iff_eq] at blank
  simp only [blanks, List.mem_cons, List.not_mem_nil, or_false]
  omega

def unreached : List Nat :=
  lowerRuns.flatMap CaseRun.members ++ lowerExpansions.map Prod.fst ++ blanks

structure LowerTables : Prop where
  expanded : ∀ entry ∈ lowerExpansions, entry.2 ≠ [] ∧
    ∀ n ∈ entry.2, n.isValidChar ∧ 0x3a < n ∧ (bits unreached).testBit n = false
  moved : ∀ run ∈ lowerRuns, ∀ n ∈ run.members,
    (run.move n).isValidChar ∧ 0x3a < run.move n ∧ (bits unreached).testBit (run.move n) = false

theorem lowerTables : LowerTables where
  expanded := by decide +kernel
  moved := by decide +kernel

theorem toNat_ofNat {n : Nat} (valid : n.isValidChar) : (Char.ofNat n).toNat = n := by
  rw [Char.ofNat, dif_pos valid]
  rfl

theorem moveBy_eq_self {runs : List CaseRun} {n : Nat} (absent : n ∉ runs.flatMap CaseRun.members) :
    moveBy runs n = n := by
  have uncovered : runs.find? (·.covers n) = none := by
    rw [List.find?_eq_none]
    intro run member covered
    exact absent (List.mem_flatMap.2 ⟨run, member, CaseRun.mem_members covered⟩)
  rw [moveBy, uncovered]

theorem lookup_expansions_eq_none {expansions : List (Nat × List Nat)} {n : Nat}
    (absent : n ∉ expansions.map Prod.fst) : expansions.lookup n = none := by
  rw [List.lookup_eq_none_iff]
  intro entry member
  simpa using fun same : n = entry.1 => absent (List.mem_map.2 ⟨entry, member, same.symm⟩)

theorem mapCase_cases {expansions : List (Nat × List Nat)} {runs : List CaseRun} {P : Nat → Prop}
    (expanded : ∀ entry ∈ expansions, entry.2 ≠ [] ∧ ∀ n ∈ entry.2, n.isValidChar ∧ P n)
    (moved : ∀ run ∈ runs, ∀ n ∈ run.members, (run.move n).isValidChar ∧ P (run.move n)) (c : Char) :
    mapCase expansions runs c = [c] ∨
      mapCase expansions runs c ≠ [] ∧ ∀ x ∈ mapCase expansions runs c, P x.toNat := by
  unfold mapCase
  cases listed : expansions.lookup c.toNat with
  | some image =>
    obtain ⟨before, after, split, -⟩ := List.lookup_eq_some_iff.1 listed
    obtain ⟨some, images⟩ := expanded (c.toNat, image) (by simp [split])
    refine .inr ⟨by simpa using some, ?_⟩
    intro x member
    obtain ⟨n, among, rfl⟩ := List.mem_map.1 member
    obtain ⟨valid, holds⟩ := images n among
    rwa [toNat_ofNat valid]
  | none =>
    unfold moveBy
    cases found : runs.find? (·.covers c.toNat) with
    | none => exact .inl (by simp)
    | some run =>
      have member := CaseRun.mem_members (by simpa using List.find?_some found)
      obtain ⟨valid, holds⟩ := moved run (List.mem_of_find?_eq_some found) _ member
      refine .inr ⟨by simp, ?_⟩
      simp only [List.mem_singleton, forall_eq]
      rwa [toNat_ofNat valid]

theorem lowerChar_eq_self {c : Char} (absent : c.toNat ∉ unreached) : lowerChar c = [c] := by
  simp only [unreached, List.mem_append, not_or] at absent
  obtain ⟨⟨moved, expanded⟩, -⟩ := absent
  rw [lowerChar, mapCase, lookup_expansions_eq_none expanded, moveBy_eq_self moved, Char.ofNat_toNat]

theorem lowerChar_cases (c : Char) :
    lowerChar c = [c] ∨ lowerChar c ≠ [] ∧ ∀ x ∈ lowerChar c, 0x3a < x.toNat ∧ x.toNat ∉ unreached := by
  refine mapCase_cases (P := fun n => 0x3a < n ∧ n ∉ unreached) ?_ ?_ c
  · intro entry listed
    obtain ⟨some, images⟩ := lowerTables.expanded entry listed
    refine ⟨some, fun n among => ?_⟩
    obtain ⟨valid, above, outside⟩ := images n among
    exact ⟨valid, above, notMem_of_testBit outside⟩
  · intro run listed n member
    obtain ⟨valid, above, outside⟩ := lowerTables.moved run listed n member
    exact ⟨valid, above, notMem_of_testBit outside⟩

theorem lowerChar_ne_nil (c : Char) : lowerChar c ≠ [] := by
  rcases lowerChar_cases c with same | ⟨some, -⟩
  · simp [same]
  · exact some

theorem lowerChar_lowered {c first : Char} {rest : List Char} (lowered : lowerChar c = first :: rest) :
    lowerChar first = [first] := by
  rcases lowerChar_cases c with same | ⟨-, outside⟩
  · rw [same] at lowered
    obtain ⟨rfl, -⟩ := List.cons.inj lowered
    exact same
  · exact lowerChar_eq_self (outside first (by simp [lowered])).2

theorem isBlank_lowerChar {c : Char} (visible : isBlank c = false) :
    ∀ x ∈ lowerChar c, isBlank x = false := by
  intro x member
  rcases lowerChar_cases c with same | ⟨-, outside⟩
  · rw [same, List.mem_singleton] at member
    rw [member, visible]
  · rw [← Bool.not_eq_true]
    intro blank
    exact (outside x member).2 (List.mem_append_right _ (mem_blanks blank))

theorem ne_colon_of_mem_lowerChar {c x : Char} (other : c ≠ ':') (member : x ∈ lowerChar c) : x ≠ ':' := by
  rcases lowerChar_cases c with same | ⟨-, outside⟩
  · rw [same, List.mem_singleton] at member
    rwa [member]
  · rintro rfl
    exact absurd (outside ':' member).1 (by decide)

end BuildGate.Text
