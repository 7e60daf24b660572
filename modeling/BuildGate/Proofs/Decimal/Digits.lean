import Mathlib.Data.Nat.Digits.Defs
import BuildGate.Decimal.Read

namespace BuildGate.Decimal

theorem baseDigit?_of_isDigit {c : Char} (digit : c.isDigit = true) :
    baseDigit? 10 c = some (c.toNat - '0'.toNat) := by
  simp only [Char.isDigit, Bool.and_eq_true, decide_eq_true_eq] at digit
  have low : '0' ≤ c := digit.1
  have high : c ≤ '9' := digit.2
  have small : c.toNat - 48 < 10 := by
    have bound : c.toNat ≤ '9'.toNat := UInt32.le_iff_toNat_le.1 digit.2
    simp only [Char.reduceToNat] at bound
    omega
  simp [baseDigit?, low, high, small]

theorem isDigit_of_baseDigit? {c : Char} {n : Nat} (read : baseDigit? 10 c = some n) : c.isDigit = true := by
  by_cases digit : '0' ≤ c ∧ c ≤ '9'
  · exact Bool.and_eq_true_iff.2 ⟨decide_eq_true digit.1, decide_eq_true digit.2⟩
  · simp only [baseDigit?, digit, ↓reduceIte] at read
    split_ifs at read <;> simp [Option.filter_some] at read

theorem isDigit_of_digits? {cs : List Char} {n : Nat} (read : digits? 10 cs = some n) :
    ∀ c ∈ cs, c.isDigit = true := by
  suffices folded : ∀ start, cs.foldlM (fun n c => (baseDigit? 10 c).map (n * 10 + ·)) start = some n →
      ∀ c ∈ cs, c.isDigit = true by
    unfold digits? at read
    split at read
    · cases read
    · exact folded 0 read
  clear read
  induction cs with
  | nil => simp
  | cons c rest ih =>
    intro start read
    rw [List.foldlM_cons] at read
    cases first : baseDigit? 10 c with
    | none => simp [first] at read
    | some digit =>
      simp only [first, Option.map_some, Option.bind_eq_bind, Option.bind_some] at read
      rw [List.forall_mem_cons]
      exact ⟨isDigit_of_baseDigit? first, ih _ read⟩

theorem foldlM_digits {cs : List Char} (digits : ∀ c ∈ cs, c.isDigit = true) (start : Nat) :
    cs.foldlM (fun n c => (baseDigit? 10 c).map (n * 10 + ·)) start = some (Nat.ofDigitChars 10 cs start) := by
  induction cs generalizing start with
  | nil => rfl
  | cons c rest ih =>
    have first := baseDigit?_of_isDigit (digits c List.mem_cons_self)
    have later := ih fun d member => digits d (List.mem_cons_of_mem c member)
    rw [List.foldlM_cons, first, Nat.ofDigitChars_cons, Nat.mul_comm 10 start, ← later]
    rfl

theorem digits?_toDigits (n : Nat) : digits? 10 (Nat.toDigits 10 n) = some n := by
  have digits : ∀ c ∈ Nat.toDigits 10 n, c.isDigit = true :=
    fun c member => Nat.isDigit_of_mem_toDigits (by decide) (by decide) member
  have value := foldlM_digits digits 0
  rw [Nat.ofDigitChars_toDigits (by decide) (by decide)] at value
  unfold digits?
  split
  · rename_i none
    exact absurd none Nat.toDigits_ne_nil
  · exact value

theorem splitSign_toDigits (n : Nat) : splitSign (Nat.toDigits 10 n) = (false, Nat.toDigits 10 n) := by
  have digits : ∀ c ∈ Nat.toDigits 10 n, c.isDigit = true :=
    fun c member => Nat.isDigit_of_mem_toDigits (by decide) (by decide) member
  generalize Nat.toDigits 10 n = cs at digits
  unfold splitSign
  split
  · exact absurd (digits '-' List.mem_cons_self) (by decide)
  · exact absurd (digits '+' List.mem_cons_self) (by decide)
  · rfl

theorem signed?_toString (n : Int) : signed? 10 (toString n).toList = some n := by
  rw [Int.toString_eq_repr, Int.repr_eq_if]
  split
  · rename_i natural
    simp only [Nat.toList_repr, signed?, splitSign_toDigits, digits?_toDigits]
    change some (n.toNat : Int) = some n
    rw [Int.toNat_of_nonneg natural]
  · rename_i negative
    have dash : ("-" ++ (-n).toNat.repr).toList = '-' :: Nat.toDigits 10 (-n).toNat := by
      rw [String.toList_append, Nat.toList_repr]
      rfl
    simp only [dash, signed?, splitSign, digits?_toDigits]
    change some (-((-n).toNat : Int)) = some n
    rw [Int.toNat_of_nonneg (by omega), Int.neg_neg]

theorem int64?_toString (n : Int) : int64? (toString n) = if fitsInt64 n then some n else none := by
  rw [int64?, int64Of?, signed?_toString, Option.filter_some]

end BuildGate.Decimal
