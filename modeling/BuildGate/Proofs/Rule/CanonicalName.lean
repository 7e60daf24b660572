import Mathlib.Data.List.DropRight
import BuildGate.Proofs.Text.LowerCase
import BuildGate.Rule.Name

namespace BuildGate

namespace Text

theorem head?_trimChars (cs : List Char) : ∀ c ∈ (trimChars cs).head?, isBlank c = false := by
  intro c first
  have start : trimChars cs <+: cs.dropWhile isBlank := List.rdropWhile_prefix isBlank _
  obtain ⟨rest, split⟩ := start
  have shown := List.head?_dropWhile_not isBlank cs
  rw [← split, List.head?_append, Option.mem_def.1 first] at shown
  simpa using shown

theorem getLast?_trimChars (cs : List Char) : ∀ c ∈ (trimChars cs).getLast?, isBlank c = false := by
  intro c last
  rw [trimChars, List.getLast?_reverse] at last
  have shown := List.head?_dropWhile_not isBlank (cs.dropWhile isBlank).reverse
  rw [Option.mem_def.1 last] at shown
  simpa using shown

theorem trimChars_eq_self {cs : List Char} (first : ∀ c ∈ cs.head?, isBlank c = false)
    (last : ∀ c ∈ cs.getLast?, isBlank c = false) : trimChars cs = cs := by
  have kept : ∀ ds : List Char, (∀ c ∈ ds.head?, isBlank c = false) → ds.dropWhile isBlank = ds := by
    intro ds shown
    cases ds with
    | nil => rfl
    | cons d rest => rw [List.dropWhile_cons, if_neg (by simp [shown d rfl])]
  rw [trimChars, kept cs first, kept cs.reverse (by rwa [List.head?_reverse]), List.reverse_reverse]

end Text

namespace RuleName

open Text

theorem toList_canonical (name : String) :
    (canonical name).toList =
      match trimChars name.toList with
      | [] => []
      | first :: rest => lowerChar first ++ rest := by
  unfold canonical
  cases trimChars name.toList <;> simp

theorem canonical_eq_self {name : String} {first : Char} {rest : List Char} (written : name.toList = first :: rest)
    (trimmed : trimChars name.toList = name.toList) (lowered : lowerChar first = [first]) :
    canonical name = name := by
  rw [← String.toList_inj, toList_canonical, trimmed, written]
  simp [lowered]

theorem trimChars_canonical (name : String) : trimChars (canonical name).toList = (canonical name).toList := by
  rw [toList_canonical]
  have shown := head?_trimChars name.toList
  have ended := getLast?_trimChars name.toList
  generalize trimChars name.toList = trimmed at shown ended ⊢
  cases trimmed with
  | nil => rfl
  | cons c rest =>
    have visible : isBlank c = false := shown c rfl
    obtain ⟨first, more, lowered⟩ := List.exists_cons_of_ne_nil (lowerChar_ne_nil c)
    have clear := isBlank_lowerChar visible
    rw [lowered] at clear
    dsimp only
    rw [lowered]
    apply trimChars_eq_self
    · simpa using clear first List.mem_cons_self
    · intro d last
      cases rest with
      | nil => exact clear d (List.mem_of_mem_getLast? (by simpa using last))
      | cons e rest =>
        apply ended d
        rw [List.getLast?_append] at last
        simpa using last

theorem canonical_canonical (name : String) : canonical (canonical name) = canonical name := by
  cases trimmed : trimChars name.toList with
  | nil =>
    have empty : canonical name = "" := by simp [canonical, trimmed]
    rw [empty]
    rfl
  | cons c rest =>
    obtain ⟨first, more, lowered⟩ := List.exists_cons_of_ne_nil (lowerChar_ne_nil c)
    have written : (canonical name).toList = first :: (more ++ rest) := by
      rw [toList_canonical, trimmed]
      simp [lowered]
    exact canonical_eq_self written (trimChars_canonical name) (lowerChar_lowered lowered)

end RuleName

end BuildGate
