import BuildGate.Pattern.Bracket
import BuildGate.Proofs.Pattern.Followed

namespace BuildGate.Pattern.Reader

open Text (CharSet)

def Spent (rest : List Char) : Prop := rest = ['$'] ∨ rest = ending

theorem classItem_followed (flags : Flags) (cs : List Char) :
    Followed (Stray flags) (cs.length - 1) (classItem flags cs) (classItem flags (cs ++ ending)) := by
  cases cs with
  | nil =>
    exact .stuck (.inl rfl)
  | cons c rest =>
    by_cases escapes : c = '\\'
    · subst escapes
      exact escape_followed flags rest
    · simp only [List.cons_append, classItem]
      exact .same (Nat.le_refl _)

theorem nextVisible_followed (flags : Flags) (cs : List Char) :
    nextVisible flags (cs ++ ending) = nextVisible flags cs ∨
      nextVisible flags cs = none ∧ nextVisible flags (cs ++ ending) = some ')' := by
  have head : ∀ left : List Char, (left ++ ending).head? = left.head? ∨
      left.head? = none ∧ (left ++ ending).head? = some ')' := by
    intro left
    cases left with
    | nil => exact .inr ⟨rfl, rfl⟩
    | cons c rest => exact .inl rfl
  unfold nextVisible
  split
  · exact head cs
  · rw [dropWhile_isBlank_followed]
    cases cs.dropWhile Text.isBlank with
    | nil => exact .inr ⟨rfl, rfl⟩
    | cons c rest =>
      by_cases comment : c = '#'
      · subst comment
        simp only [List.cons_append, dropWhile_isBlank_followed]
        exact head _
      · refine .inl ?_
        simp only [List.cons_append]
        split <;> split <;> simp_all

theorem rangeFrom_condition (flags : Flags) (l : Look) (cs : List Char) : rangeFrom flags (.condition l) cs = none := by
  cases cs with
  | nil => rfl
  | cons c rest =>
    have apart : ∀ second, rangeSet flags (.condition l) second = none := fun _ => rfl
    simp only [rangeFrom, itemSet, apart, Option.map_none]
    cases classItem flags (skip flags rest) <;> simp

theorem rangeSet_condition (flags : Flags) (first : Atom) (l : Look) : rangeSet flags first (.condition l) = none := by
  unfold rangeSet
  cases memberChar flags first <;> rfl

theorem rangeFrom_followed (flags : Flags) (first : Atom) (cs : List Char) :
    Followed (fun _ => Spent) cs.length (rangeFrom flags first cs) (rangeFrom flags first (cs ++ ending)) := by
  have member : ∀ left : List Char, Followed (fun _ => Spent) left.length
      ((itemSet flags first).map (·, left)) ((itemSet flags first).map (·, left ++ ending)) := by
    intro left
    cases itemSet flags first with
    | none => exact .fails
    | some set => exact .same (Nat.le_refl _)
  cases cs with
  | nil =>
    have behind : rangeFrom flags first ending = (itemSet flags first).map (·, ending) := rfl
    rw [List.nil_append, behind]
    cases itemSet flags first with
    | none => exact .fails
    | some set => exact .stuck (.inr rfl)
  | cons c rest =>
    have ends : ((nextVisible flags (rest ++ ending) == some ']') || (nextVisible flags (rest ++ ending) == some '-')) =
        ((nextVisible flags rest == some ']') || (nextVisible flags rest == some '-')) := by
      rcases nextVisible_followed flags rest with same | ⟨none, behind⟩
      · rw [same]
      · rw [none, behind]
        rfl
    simp only [List.cons_append, rangeFrom, ends]
    split
    · split
      · exact member (c :: rest)
      · have second := followed_skip flags rest .fails fun left =>
          (classItem_followed flags left).mono (Nat.sub_le _ _)
        refine (second.through (rangeSet flags first) fun atom rest set read stray => ?_).mono (Nat.le_succ _)
        rcases stray with dollar | ⟨l, -, rfl, -⟩
        · exact .inl dollar
        · rw [rangeSet_condition] at read
          exact absurd read (Option.some_ne_none _).symm
    · exact member (c :: rest)

theorem classRange_followed (flags : Flags) (cs : List Char) :
    Followed (fun _ => Spent) (cs.length - 1) (classRange flags cs) (classRange flags (cs ++ ending)) := by
  refine (classItem_followed flags cs).bind (fun first left short => ?_) (fun first => ?_)
    fun first rest stray => ?_
  · exact (followed_skip flags left .fails (rangeFrom_followed flags first)).mono short
  · simp only [skip_nil, rangeFrom]
    exact .fails
  · rcases stray with rfl | ⟨l, -, rfl, -⟩
    · simp only [skip_dollar, rangeFrom, Char.reduceEq, ↓reduceIte]
      cases itemSet flags first with
      | none => exact .fails
      | some set => exact .stuck (.inl rfl)
    · simp only [rangeFrom_condition]
      exact .fails

theorem leadingHyphens_followed (flags : Flags) {fuel fuel' : Nat} (c : OpenClass)
    {cs : List Char} (enough : cs.length < fuel) (enough' : (cs ++ ending).length < fuel') :
    Followed never cs.length (some (leadingHyphens flags fuel c cs))
      (some (leadingHyphens flags fuel' c (cs ++ ending))) := by
  induction fuel generalizing c cs fuel' with
  | zero => omega
  | succ fuel ih =>
    obtain _ | fuel' := fuel'
    · omega
    cases cs with
    | nil =>
      exact .same (Nat.le_refl _)
    | cons first rest =>
      by_cases hyphen : first = '-'
      · subst hyphen
        simp only [List.length_append, List.length_cons] at enough enough'
        simp only [List.cons_append, leadingHyphens]
        rcases skip_followed flags rest with ⟨same, short⟩ | ⟨swallowed, none⟩
        · rw [same]
          exact (ih _ (by omega) (by simp only [List.length_append]; omega)).mono (Nat.le_succ_of_le short)
        · have stays : ∀ fuel c, leadingHyphens flags fuel c [] = (c, []) := by
            intro fuel c
            cases fuel <;> rfl
          rw [swallowed, none, stays, stays]
          exact .swallowed
      · have stays : ∀ fuel rest, leadingHyphens flags fuel c (first :: rest) = (c, first :: rest) := by
          intro fuel rest
          cases fuel <;> simp [leadingHyphens, hyphen]
        rw [List.cons_append, stays, stays]
        exact .same (Nat.le_refl _)

theorem negation_followed (flags : Flags) (cs : List Char) :
    Followed never cs.length (some (negation flags cs)) (some (negation flags (cs ++ ending))) := by
  cases cs with
  | nil => exact .same (Nat.le_refl _)
  | cons c rest =>
    simp only [List.cons_append, negation]
    split
    · exact skip_followed_some flags _ (Nat.le_succ _)
    · exact .same (Nat.le_refl _)

theorem leadingBracket_followed (flags : Flags) (c : OpenClass) (cs : List Char) :
    Followed never cs.length (some (leadingBracket flags c cs)) (some (leadingBracket flags c (cs ++ ending))) := by
  cases cs with
  | nil =>
    have behind : leadingBracket flags c ending = (c, ending) := by
      simp [leadingBracket, ending]
    rw [List.nil_append, behind]
    exact .same (Nat.le_refl _)
  | cons first rest =>
    simp only [List.cons_append, leadingBracket]
    split
    · exact skip_followed_some flags _ (Nat.le_succ _)
    · exact .same (Nat.le_refl _)

theorem openClass_followed (flags : Flags) (cs : List Char) :
    Followed never cs.length (some (openClass flags cs)) (some (openClass flags (cs ++ ending))) := by
  have start : Followed never cs.length (some (negation flags (skip flags cs)))
      (some (negation flags (skip flags (cs ++ ending)))) :=
    followed_skip flags cs .swallowed (negation_followed flags)
  have hyphens := start.bind
    (f := fun x => some (leadingHyphens flags (x.2.length + 1) ⟨x.1, none, .empty, 0, 0⟩ x.2))
    (fun _ left short => (leadingHyphens_followed flags _ (Nat.lt_succ_self _) (Nat.lt_succ_self _)).mono short)
    (fun _ => .swallowed) fun _ _ => False.elim
  exact hyphens.bind (f := fun y => some (leadingBracket flags y.1 y.2))
    (fun c left short => (leadingBracket_followed flags c left).mono short) (fun _ => .swallowed)
    fun _ _ => False.elim

theorem asciiName_followed (flags : Flags) (negate : Bool) (cs : List Char) :
    Followed never cs.length (asciiName flags negate cs) (asciiName flags negate (cs ++ ending)) := by
  have noColon : ending.dropWhile (· != ':') = [] := rfl
  cases left : cs.dropWhile (· != ':') with
  | nil =>
    simp only [asciiName, List.dropWhile_append, left, List.isEmpty_nil, ↓reduceIte, noColon]
    exact .fails
  | cons c rest =>
    have parts := congrArg List.length (List.takeWhile_append_dropWhile (p := (· != ':')) (l := cs))
    rw [left, List.length_append, List.length_cons] at parts
    have longer : (cs.takeWhile (· != ':')).length ≠ cs.length := by omega
    simp only [asciiName, List.dropWhile_append, List.takeWhile_append, left, List.isEmpty_cons, Bool.false_eq_true,
      ↓reduceIte, longer]
    cases rest with
    | nil => exact .fails
    | cons d rest =>
      simp only [List.cons_append]
      rw [List.length_cons] at parts
      split
      · cases Class.bracketed.lookup (String.ofList (cs.takeWhile (· != ':'))) with
        | none => exact .fails
        | some set => exact .same (by omega)
      · exact .fails

theorem asciiClass_followed (flags : Flags) (cs : List Char) :
    Followed never cs.length (asciiClass flags cs) (asciiClass flags (cs ++ ending)) := by
  cases cs with
  | nil => exact .fails
  | cons c rest =>
    simp only [List.cons_append, asciiClass]
    split
    · cases rest with
      | nil => exact .fails
      | cons d rest =>
        simp only [List.cons_append, List.head?_cons, List.tail_cons, Option.some.injEq]
        split
        · exact (asciiName_followed flags true rest).mono (by simp; omega)
        · exact (asciiName_followed flags false (d :: rest)).mono (Nat.le_succ _)
    · exact .fails

theorem operator?_followed (cs : List Char) :
    Followed never (cs.length - 1) (operator? cs) (operator? (cs ++ ending)) := by
  rcases cs with _ | ⟨c, _ | ⟨d, rest⟩⟩
  · exact .fails
  · have behind : operator? (c :: ending) = none := by
      simp only [operator?, ending]
      split <;> simp_all [operatorOf?]
    rw [List.singleton_append, behind]
    exact .fails
  · simp only [List.cons_append, operator?]
    split
    · cases operatorOf? c with
      | none => exact .fails
      | some op => exact .same (by simp)
    · exact .fails

theorem classBody_nil (flags : Flags) (fuel : Nat) (current : OpenClass) (outer : List OpenClass) :
    classBody flags fuel current outer [] = none := by
  cases fuel <;> simp [classBody]

theorem classBody_dollar (flags : Flags) (fuel : Nat) (current : OpenClass) (outer : List OpenClass) :
    classBody flags fuel current outer ['$'] = none := by
  cases fuel <;> simp [classBody, operator?, classRange, classItem, rangeFrom]

theorem classRange_parenDollar (flags : Flags) :
    classRange flags [')', '$'] = (itemSet flags (.literal ')' false)).map (·, ['$']) := by
  simp [classRange, classItem, rangeFrom]

theorem classBody_spent (flags : Flags) (fuel : Nat) (current : OpenClass) (outer : List OpenClass) {rest : List Char}
    (spent : Spent rest) : classBody flags fuel current outer rest = none := by
  rcases spent with rfl | rfl
  · exact classBody_dollar flags fuel current outer
  · cases fuel with
    | zero => rfl
    | succ fuel =>
      have noOperator : operator? [')', '$'] = none := rfl
      simp only [classBody, ending, skip_paren, Char.reduceEq, ↓reduceIte, noOperator, classRange_parenDollar]
      cases itemSet flags (.literal ')' false) with
      | none => rfl
      | some set => exact classBody_dollar flags fuel _ outer

theorem classBody_skip {flags : Flags} (fuel : Nat) (current : OpenClass) (outer : List OpenClass)
    {cs more : List Char} (same : skip flags cs = skip flags more) :
    classBody flags fuel current outer cs = classBody flags fuel current outer more := by
  cases fuel with
  | zero => rfl
  | succ fuel => simp only [classBody, same]

theorem classBody_followed (flags : Flags) {fuel fuel' : Nat} (current : OpenClass)
    (outer : List OpenClass) {cs : List Char} (enough : cs.length < fuel) (enough' : (cs ++ ending).length < fuel') :
    Followed never cs.length (classBody flags fuel current outer cs)
      (classBody flags fuel' current outer (cs ++ ending)) := by
  induction fuel generalizing current outer cs fuel' with
  | zero => omega
  | succ fuel ih =>
    obtain _ | fuel' := fuel'
    · omega
    rcases skip_followed flags cs with ⟨same, short⟩ | ⟨swallowed, none⟩
    · cases left : skip flags cs with
      | nil =>
        rw [left, List.nil_append] at same
        rw [classBody_skip _ _ _ (same.trans (skip_ending flags).symm),
          classBody_spent flags _ _ _ (.inr rfl), classBody_skip _ _ _ (left.trans (skip_nil flags).symm),
          classBody_nil]
        exact .fails
      | cons c rest =>
        rw [left, List.cons_append] at same
        simp only [left, List.length_cons, List.length_append] at short enough enough'
        -- The class goes on behind what was read.
        have goesOn : ∀ current outer (more : List Char), more.length ≤ rest.length →
            Followed never cs.length (classBody flags fuel current outer more)
              (classBody flags fuel' current outer (more ++ ending)) := fun current outer more shorter =>
          (ih current outer (by omega) (by simp only [List.length_append]; omega)).mono (by omega)
        simp only [classBody, left, same]
        split
        · have name := asciiClass_followed flags rest
          generalize asciiClass flags rest = r at name
          generalize asciiClass flags (rest ++ ending) = r' at name
          cases name with
          | fails =>
            have opened := openClass_followed flags rest
            generalize openClass flags rest = o at opened
            generalize openClass flags (rest ++ ending) = o' at opened
            cases opened with
            | same shorter => exact goesOn _ _ _ shorter
            | swallowed =>
              simp only [classBody_nil]
              exact .fails
          | @same set? left shorter =>
            cases set? with
            | none => exact .fails
            | some set => exact goesOn _ _ _ shorter
          | @swallowed set? =>
            cases set? <;> simp only [classBody_nil] <;> exact .fails
          | stuck behind => exact behind.elim
        · split
          · cases current.close flags with
            | none => exact .fails
            | some set =>
              cases outer with
              | nil => exact .same (by omega)
              | cons enclosing outer => exact goesOn _ _ rest (Nat.le_refl _)
          · have sign := operator?_followed (c :: rest)
            simp only [List.cons_append, List.length_cons, Nat.add_sub_cancel] at sign
            generalize operator? (c :: rest) = r at sign
            generalize operator? (c :: (rest ++ ending)) = r' at sign
            cases sign with
            | fails =>
              have member := classRange_followed flags (c :: rest)
              simp only [List.cons_append, List.length_cons, Nat.add_sub_cancel] at member
              generalize classRange flags (c :: rest) = r at member
              generalize classRange flags (c :: (rest ++ ending)) = r' at member
              cases member with
              | fails => exact .fails
              | same shorter => exact goesOn _ _ _ shorter
              | swallowed =>
                simp only [classBody_nil]
                exact .fails
              | stuck spent =>
                simp only [classBody_spent flags _ _ _ spent]
                exact .fails
            | same shorter => exact goesOn _ _ _ shorter
            | swallowed =>
              simp only [classBody_nil]
              exact .fails
            | stuck behind => exact behind.elim
    · rw [classBody_skip _ _ _ (swallowed.trans (skip_nil flags).symm), classBody_nil,
        classBody_skip _ _ _ (none.trans (skip_nil flags).symm), classBody_nil]
      exact .fails

theorem bracketClass_followed (flags : Flags) (cs : List Char) :
    Followed never cs.length (bracketClass flags cs) (bracketClass flags (cs ++ ending)) := by
  have opened := openClass_followed flags cs
  unfold bracketClass
  generalize openClass flags cs = o at opened
  generalize openClass flags (cs ++ ending) = o' at opened
  cases opened with
  | @same c left short =>
    have longEnough : (left ++ ending).length < (cs ++ ending).length + 1 := by
      simp only [List.length_append]
      omega
    exact (classBody_followed flags c [] (Nat.lt_succ_of_le short) longEnough).mono short
  | swallowed =>
    simp only [classBody_nil]
    exact .fails

end BuildGate.Pattern.Reader
