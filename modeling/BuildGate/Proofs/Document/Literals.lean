import Mathlib.Data.List.Basic
import Mathlib.Data.List.TakeWhile
import BuildGate.Document.Printer
import BuildGate.Document.Reader
import BuildGate.Proofs.Decimal.Digits

namespace BuildGate.Value.Reader

theorem hexUnit_append {cs : List Char} (four : cs.length = 4) (rest : List Char) :
    hexUnit (cs ++ rest) = (Decimal.digits? 16 cs).map (·, rest) := by
  obtain ⟨a, b, c, d, rfl⟩ := List.length_eq_four.1 four
  rfl

def controlDigits (n : Nat) : List Char := ['0', '0'] ++ (if n < 16 then ['0'] else []) ++ Nat.toDigits 16 n

theorem unicodeEscape_control {c : Char} (control : c.toNat < 0x20) (rest : List Char) :
    unicodeEscape (controlDigits c.toNat ++ rest) = some (c, rest) := by
  have spelled : ∀ n < 0x20, (controlDigits n).length = 4 ∧ Decimal.digits? 16 (controlDigits n) = some n := by decide
  obtain ⟨four, value⟩ := spelled c.toNat control
  have low : ¬ (0xd800 ≤ c.toNat ∧ c.toNat < 0xdc00) := by omega
  have high : ¬ (0xdc00 ≤ c.toNat ∧ c.toNat < 0xe000) := by omega
  simp [unicodeEscape, hexUnit_append four, value, low, high, Char.ofNat_toNat]

theorem stringBody_escapeChar (fuel : Nat) (done : List Char) (c : Char) (rest : List Char) :
    stringBody (fuel + 1) done (escapeChar c ++ rest) = stringBody fuel (c :: done) rest := by
  unfold escapeChar
  split
  all_goals try rfl
  split
  · rename_i control
    have read := unicodeEscape_control control rest
    simp only [controlDigits, List.append_assoc, List.cons_append, List.nil_append] at read ⊢
    rw [stringBody]
    simp [read]
  · rename_i quote backslash _ _ _ _ _ plain
    rw [stringBody.eq_def, List.cons_append, List.nil_append]
    dsimp only
    split
    · contradiction
    · rename_i same
      exact absurd (List.cons.inj same).1 quote
    · rename_i same
      exact absurd (List.cons.inj same).1 backslash
    · rename_i same
      obtain ⟨rfl, rfl⟩ := List.cons.inj same
      rw [if_neg plain]

theorem stringBody_flatMap {fuel : Nat} {cs : List Char} (enough : cs.length < fuel) (done rest : List Char) :
    stringBody fuel done (cs.flatMap escapeChar ++ '"' :: rest) = some (String.ofList (done.reverse ++ cs), rest) := by
  induction cs generalizing fuel done with
  | nil =>
    obtain ⟨fuel, rfl⟩ := Nat.exists_eq_add_one_of_ne_zero (Nat.ne_zero_of_lt enough)
    simp [stringBody]
  | cons c cs ih =>
    obtain ⟨fuel, rfl⟩ := Nat.exists_eq_add_one_of_ne_zero (Nat.ne_zero_of_lt enough)
    rw [List.flatMap_cons, List.append_assoc, stringBody_escapeChar, ih (by simpa using enough)]
    simp

theorem length_le_flatMap_escapeChar (cs : List Char) : cs.length ≤ (cs.flatMap escapeChar).length := by
  have one : ∀ c, 1 ≤ (escapeChar c).length := by
    intro c
    unfold escapeChar
    split
    case h_8 => split <;> simp
    all_goals simp
  induction cs with
  | nil => simp
  | cons c rest ih =>
    have first := one c
    rw [List.flatMap_cons, List.length_append, List.length_cons]
    omega

theorem isNumberChar_of_isDigit {c : Char} (digit : c.isDigit = true) : isNumberChar c = true := by
  simp [isNumberChar, digit]

theorem splitSign_cases (cs : List Char) :
    (∃ sign, isNumberChar sign = true ∧ cs = sign :: (Decimal.splitSign cs).2) ∨ (Decimal.splitSign cs).2 = cs := by
  unfold Decimal.splitSign
  split
  · exact .inl ⟨'-', rfl, rfl⟩
  · exact .inl ⟨'+', rfl, rfl⟩
  · exact .inr rfl

theorem isNumberChar_of_splitSign {cs : List Char} (each : ∀ c ∈ (Decimal.splitSign cs).2, isNumberChar c = true) :
    ∀ c ∈ cs, isNumberChar c = true := by
  rcases splitSign_cases cs with ⟨sign, signs, split⟩ | same
  · rw [split]
    simpa only [List.forall_mem_cons] using ⟨signs, each⟩
  · rwa [same] at each

theorem isNumberChar_of_signed? {cs : List Char} {n : Int} (read : Decimal.signed? 10 cs = some n) :
    ∀ c ∈ cs, isNumberChar c = true := by
  apply isNumberChar_of_splitSign
  unfold Decimal.signed? at read
  generalize Decimal.splitSign cs = signed at read ⊢
  obtain ⟨negative, unsigned⟩ := signed
  cases digits : Decimal.digits? 10 unsigned with
  | none => cases negative <;> simp [digits] at read
  | some m => exact fun c member => isNumberChar_of_isDigit (Decimal.isDigit_of_digits? digits c member)

theorem isNumberChar_of_exponent? {cs : List Char} {n : Int} (read : Decimal.exponent? cs = some n) :
    ∀ c ∈ cs, isNumberChar c = true := by
  cases cs with
  | nil => simp
  | cons mark rest =>
    simp only [Decimal.exponent?] at read
    split_ifs at read with marks
    rw [List.forall_mem_cons]
    refine ⟨?_, isNumberChar_of_signed? read⟩
    rcases marks with rfl | rfl <;> rfl

theorem isNumberChar_of_scientific? {cs : List Char} {s : Decimal.Scientific} (read : Decimal.scientific? cs = some s) :
    ∀ c ∈ cs, isNumberChar c = true := by
  have whole : ∀ c ∈ cs.takeWhile Char.isDigit, isNumberChar c = true := fun c member =>
    isNumberChar_of_isDigit (List.mem_takeWhile_imp member)
  rw [← List.takeWhile_append_dropWhile (p := Char.isDigit) (l := cs), List.forall_mem_append]
  refine ⟨whole, ?_⟩
  unfold Decimal.scientific? at read
  generalize cs.dropWhile Char.isDigit = later at read ⊢
  dsimp only at read
  split at read
  · rename_i rest
    split_ifs at read
    obtain ⟨e, exponent, -⟩ := Option.map_eq_some_iff.1 read
    rw [List.forall_mem_cons, ← List.takeWhile_append_dropWhile (p := Char.isDigit) (l := rest), List.forall_mem_append]
    exact ⟨rfl, fun c member => isNumberChar_of_isDigit (List.mem_takeWhile_imp member),
      isNumberChar_of_exponent? exponent⟩
  · split_ifs at read
    obtain ⟨e, exponent, -⟩ := Option.map_eq_some_iff.1 read
    exact isNumberChar_of_exponent? exponent

theorem exists_scientific_of_numberOf? {cs : List Char} {v : Value} (read : numberOf? cs = some v) :
    ∃ s, Decimal.scientific? (Decimal.splitSign cs).2 = some s := by
  unfold numberOf? at read
  cases scientific : Decimal.scientific? (Decimal.splitSign cs).2 with
  | none => simp [scientific] at read
  | some s => exact ⟨s, rfl⟩

theorem isNumberChar_of_numberOf? {cs : List Char} {v : Value} (read : numberOf? cs = some v) :
    ∀ c ∈ cs, isNumberChar c = true := by
  obtain ⟨s, scientific⟩ := exists_scientific_of_numberOf? read
  exact isNumberChar_of_splitSign (isNumberChar_of_scientific? scientific)

theorem ne_nil_of_numberOf? {cs : List Char} {v : Value} (read : numberOf? cs = some v) : cs ≠ [] := by
  rintro rfl
  cases read

theorem exists_scientific_of_isDigit {cs : List Char} (nonempty : cs ≠ []) (digits : ∀ c ∈ cs, c.isDigit = true) :
    ∃ s, Decimal.scientific? cs = some s := by
  refine ⟨⟨cs, [], 0⟩, ?_⟩
  rw [Decimal.scientific?, List.takeWhile_eq_self_iff.2 digits, List.dropWhile_eq_nil_iff.2 digits]
  simp [nonempty, Decimal.exponent?]

theorem numberOf?_digits {negative : Bool} {cs : List Char} {n : Nat}
    (split : Decimal.splitSign cs = (negative, Nat.toDigits 10 n)) (proper : negative = true → n ≠ 0)
    (fits : Decimal.minInt64 ≤ (if negative then -(n : Int) else n) ∧
      (if negative then -(n : Int) else n) ≤ Decimal.maxUInt64) :
    numberOf? cs = some (.int (if negative then -(n : Int) else n)) := by
  have digits : ∀ c ∈ Nat.toDigits 10 n, c.isDigit = true :=
    fun c member => Nat.isDigit_of_mem_toDigits (by decide) (by decide) member
  obtain ⟨s, scientific⟩ := exists_scientific_of_isDigit Nat.toDigits_ne_nil digits
  have zero : (negative && (if negative then -(n : Int) else n) == 0) = false := by
    cases negative <;> simp_all
  simp only [numberOf?, split, scientific, List.all_eq_true.2 digits, Decimal.digits?_toDigits, zero, fits,
    Option.bind_eq_bind, Option.bind_some, ↓reduceIte, Bool.false_eq_true, and_self]

theorem numberOf?_toString {n : Int} (fits : Decimal.minInt64 ≤ n ∧ n ≤ Decimal.maxUInt64) :
    numberOf? (toString n).toList = some (.int n) := by
  rw [Int.toString_eq_repr, Int.repr_eq_if]
  split
  · rename_i natural
    have read := numberOf?_digits (Decimal.splitSign_toDigits n.toNat) nofun
      (by simpa [Int.toNat_of_nonneg natural] using fits)
    simpa [Int.toNat_of_nonneg natural] using read
  · rename_i negative
    have back : -((-n).toNat : Int) = n := by omega
    have read := @numberOf?_digits true ('-' :: Nat.toDigits 10 (-n).toNat) (-n).toNat rfl (by omega)
      (by simpa only [↓reduceIte, back] using fits)
    simp only [↓reduceIte, back] at read
    simpa using read

end BuildGate.Value.Reader
