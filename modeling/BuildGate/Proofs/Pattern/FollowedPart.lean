import BuildGate.Pattern.Reader
import BuildGate.Proofs.Pattern.FollowedClass

namespace BuildGate.Pattern.Reader

theorem flagLetters_followed (flags : Flags) (seen cs : List Char) :
    (∃ f letters rest, flagLetters flags seen cs = some (f, letters, rest) ∧ rest ≠ [] ∧ rest.length ≤ cs.length ∧
      flagLetters flags seen (cs ++ ending) = some (f, letters, rest ++ ending)) ∨
    flagLetters flags seen cs = none ∧ (flagLetters flags seen (cs ++ ending) = none ∨
      ∃ f letters, flagLetters flags seen (cs ++ ending) = some (f, letters, ending)) := by
  induction cs generalizing flags seen with
  | nil =>
    refine .inr ⟨rfl, ?_⟩
    have behind : flagLetters flags seen ending =
        if seen.head? = some '-' then none else some (flags, seen, ending) := by
      simp [flagLetters, ending]
    rw [List.nil_append, behind]
    split
    · exact .inl rfl
    · exact .inr ⟨flags, seen, rfl⟩
  | cons c rest ih =>
    have weaken : ∀ flags seen,
        (∃ f letters left, flagLetters flags seen rest = some (f, letters, left) ∧ left ≠ [] ∧
          left.length ≤ (c :: rest).length ∧
          flagLetters flags seen (rest ++ ending) = some (f, letters, left ++ ending)) ∨
        flagLetters flags seen rest = none ∧ (flagLetters flags seen (rest ++ ending) = none ∨
          ∃ f letters, flagLetters flags seen (rest ++ ending) = some (f, letters, ending)) := by
      intro flags seen
      rcases ih flags seen with ⟨f, letters, left, alone, more, short, behind⟩ | fails
      · exact .inl ⟨f, letters, left, alone, more, Nat.le_succ_of_le short, behind⟩
      · exact .inr fails
    simp only [List.cons_append, flagLetters]
    split
    · split
      · exact .inr ⟨rfl, .inl rfl⟩
      · exact .inl ⟨flags, seen, c :: rest, rfl, List.cons_ne_nil _ _, Nat.le_refl _, rfl⟩
    · split
      · exact .inr ⟨rfl, .inl rfl⟩
      · split
        · exact weaken _ _
        · cases switch flags c (!seen.contains '-') with
          | none => exact .inr ⟨rfl, .inl rfl⟩
          | some flags => exact weaken _ _

theorem groupName_ending (first : Bool) : groupName first ending = none := by
  simp [groupName, ending]

theorem groupName_followed (first : Bool) (cs : List Char) :
    Followed never cs.length (groupName first cs) (groupName first (cs ++ ending)) := by
  induction cs generalizing first with
  | nil =>
    rw [List.nil_append, groupName_ending]
    exact .fails
  | cons c rest ih =>
    by_cases ends : c = '>'
    · subst ends
      cases first with
      | true => exact .fails
      | false => exact .same (Nat.le_succ _)
    · simp only [List.cons_append, groupName]
      split
      · exact ((ih false).map (c :: ·) fun _ _ => id).mono (Nat.le_succ _)
      · exact .fails

namespace State

/-- What was read although the text alone ends too early; no group has been opened or closed on the way. -/
def Halted (s : State) (rest : List Char) : Prop :=
  rest = ['$'] ∨ ∃ more, rest = '{' :: more ∧ skip s.flags more = ending

theorem enterNamed_followed (s : State) (cs : List Char) :
    Followed Halted cs.length (s.enterNamed cs) (s.enterNamed (cs ++ ending)) := by
  have whole : Followed Halted cs.length _ _ := (groupName_followed true cs).through
    (fun name =>
      if s.names.contains name = true then none else some { s.enterRemembered with names := name :: s.names })
    fun _ _ _ _ => False.elim
  have form : ∀ cs, s.enterNamed cs = (groupName true cs).bind fun x =>
      (if s.names.contains x.1 = true then none
        else some { s.enterRemembered with names := x.1 :: s.names }).map (·, x.2) := by
    intro cs
    simp only [enterNamed, Option.bind_eq_bind]
    congr 1
    funext x
    split <;> rfl
  rw [form, form]
  exact whole

theorem enterFlagged_eq (s : State) {cs rest letters : List Char} {f : Flags} {c : Char}
    (read : flagLetters s.flags [] cs = some (f, letters, c :: rest)) :
    s.enterFlagged cs =
      if c = ':' then some (s.enter f, rest)
      else if letters = [] then none
      else if c = ')' then some (s.setFlags f, rest)
      else none := by
  simp only [enterFlagged, read]
  by_cases colon : c = ':'
  · subst colon
    rfl
  · by_cases paren : c = ')'
    · subst paren
      cases letters <;> rfl
    · cases letters <;> simp [colon, paren]

theorem enterFlagged_followed (s : State) (cs : List Char) :
    Followed Halted cs.length (s.enterFlagged cs) (s.enterFlagged (cs ++ ending)) := by
  rcases flagLetters_followed s.flags [] cs with
    ⟨f, letters, rest, alone, more, short, behind⟩ | ⟨alone, behind | ⟨f, letters, behind⟩⟩
  · obtain ⟨c, rest, rfl⟩ := List.exists_cons_of_ne_nil more
    rw [enterFlagged_eq s alone, enterFlagged_eq s behind]
    split
    · exact .same (Nat.le_of_succ_le short)
    · split
      · exact .fails
      · split
        · exact .same (Nat.le_of_succ_le short)
        · exact .fails
  · simp only [enterFlagged, alone, behind]
    exact .fails
  · simp only [enterFlagged, alone, behind]
    cases letters with
    | nil => exact .fails
    | cons letter letters =>
      exact .stuck (.inl rfl)

theorem openMarked_followed (s : State) (cs : List Char) :
    Followed Halted cs.length (s.openMarked cs) (s.openMarked (cs ++ ending)) := by
  cases cs with
  | nil =>
    have behind : s.openMarked ending = none := by
      simp [openMarked, enterFlagged, flagLetters, ending]
    rw [List.nil_append, behind]
    exact .fails
  | cons c rest =>
    have head : ∀ d, d ≠ ')' → ((rest ++ ending).head? = some d ↔ rest.head? = some d) := by
      intro d other
      cases rest with
      | nil => simp [ending, other.symm]
      | cons e rest => simp
    have named := enterNamed_followed s rest
    simp only [List.cons_append, openMarked, head '=' (by decide), head '!' (by decide), head '<' (by decide)]
    split
    · exact .fails
    · split
      · split
        · exact .fails
        · exact named.mono (Nat.le_succ _)
      · split
        · rename_i marked
          obtain ⟨more, rfl⟩ : ∃ more, rest = '<' :: more := by
            cases rest with
            | nil => simp at marked
            | cons d more => exact ⟨more, by simpa using marked.2⟩
          exact (enterNamed_followed s more).mono (by simp only [List.length_cons]; omega)
        · exact enterFlagged_followed s (c :: rest)

theorem openGroup_followed (s : State) (cs : List Char) :
    Followed Halted cs.length (s.openGroup cs) (s.openGroup (cs ++ ending)) := by
  rcases skip_followed s.flags cs with ⟨same, short⟩ | ⟨swallowed, none⟩
  · cases visible : skip s.flags cs with
    | nil =>
      have behind : skip s.flags (cs ++ ending) = ')' :: ['$'] := by rw [same, visible]; rfl
      simp only [openGroup, visible, behind, Char.reduceEq, ↓reduceIte]
      exact .same (show List.length [] ≤ cs.length from Nat.zero_le _)
    | cons c rest =>
      rw [visible, List.length_cons] at short
      simp only [openGroup, same, visible, List.cons_append]
      split
      · exact (openMarked_followed s rest).mono (Nat.le_of_succ_le short)
      · exact .same short
  · simp only [openGroup, swallowed, none]
    exact .swallowed

end State

theorem takeDigits_nil (flags : Flags) (fuel : Nat) : decimal.takeDigits flags fuel [] = ([], []) := by
  cases fuel <;> rfl

theorem takeDigits_followed (flags : Flags) {fuel fuel' : Nat} {cs : List Char}
    (enough : cs.length < fuel) (enough' : (cs ++ ending).length < fuel') :
    Followed never cs.length (some (decimal.takeDigits flags fuel cs))
      (some (decimal.takeDigits flags fuel' (cs ++ ending))) := by
  induction fuel generalizing cs fuel' with
  | zero => omega
  | succ fuel ih =>
    obtain _ | fuel' := fuel'
    · omega
    cases cs with
    | nil => exact .same (Nat.le_refl _)
    | cons c rest =>
      simp only [List.length_append, List.length_cons] at enough enough'
      simp only [List.cons_append, decimal.takeDigits]
      split
      · rcases skip_followed flags rest with ⟨same, short⟩ | ⟨swallowed, none⟩
        · rw [same]
          have later := ih (show (skip flags rest).length < fuel by omega)
            (show (skip flags rest ++ ending).length < fuel' by simp only [List.length_append]; omega)
          exact (later.map (c :: ·) fun _ _ => id).mono (Nat.le_succ_of_le short)
        · rw [swallowed, none, takeDigits_nil, takeDigits_nil]
          exact .swallowed
      · exact .same (Nat.le_refl _)

theorem afterBlanks_nil (flags : Flags) (fuel : Nat) : decimal.afterBlanks flags fuel [] = [] := by
  cases fuel <;> rfl

theorem afterBlanks_followed {α : Type} (flags : Flags) (a : α) {fuel fuel' : Nat}
    {cs : List Char} (enough : cs.length < fuel) (enough' : (cs ++ ending).length < fuel') :
    Followed never cs.length (some (a, decimal.afterBlanks flags fuel cs))
      (some (a, decimal.afterBlanks flags fuel' (cs ++ ending))) := by
  induction fuel generalizing cs fuel' with
  | zero => omega
  | succ fuel ih =>
    obtain _ | fuel' := fuel'
    · omega
    cases cs with
    | nil => exact .same (Nat.le_refl _)
    | cons c rest =>
      simp only [List.length_append, List.length_cons] at enough enough'
      simp only [List.cons_append, decimal.afterBlanks]
      split
      · rcases skip_followed flags rest with ⟨same, short⟩ | ⟨swallowed, none⟩
        · rw [same]
          exact (ih (by omega) (by simp only [List.length_append]; omega)).mono (Nat.le_succ_of_le short)
        · rw [swallowed, none, afterBlanks_nil, afterBlanks_nil]
          exact .swallowed
      · exact .same (Nat.le_refl _)

theorem decimal_followed (flags : Flags) (cs : List Char) :
    Followed never cs.length (decimal flags cs) (decimal flags (cs ++ ending)) := by
  have short := (List.dropWhile_suffix (l := cs) Text.isBlank).length_le
  have digits : Followed never cs.length
      (some (decimal.takeDigits flags ((cs.dropWhile Text.isBlank).length + 1) (cs.dropWhile Text.isBlank)))
      (some (decimal.takeDigits flags (((cs ++ ending).dropWhile Text.isBlank).length + 1)
        ((cs ++ ending).dropWhile Text.isBlank))) := by
    rw [dropWhile_isBlank_followed]
    exact (takeDigits_followed flags (Nat.lt_succ_self _) (Nat.lt_succ_self _)).mono short
  refine digits.bind (f := fun x => (Decimal.digits? 10 x.1).bind fun n =>
    if n < 1 <<< 32 then some (n, decimal.afterBlanks flags (x.2.length + 1) x.2) else none)
    (fun digits left shorter => ?_) (fun digits => ?_) fun _ _ => False.elim
  · cases Decimal.digits? 10 digits with
    | none => exact .fails
    | some n =>
      simp only [Option.bind_some]
      split
      · exact (afterBlanks_followed flags n (Nat.lt_succ_self _) (Nat.lt_succ_self _)).mono shorter
      · exact .fails
  · cases Decimal.digits? 10 digits with
    | none => exact .fails
    | some n =>
      simp only [Option.bind_some, afterBlanks_nil]
      split
      · exact .swallowed
      · exact .fails

theorem afterBrace_followed {α β : Type} {bound : Nat} {r r' : Option (α × List Char)}
    (followed : Followed never bound r r') (f : α → β) :
    Followed never bound (r.bind fun x => (afterBrace x.2).map (f x.1, ·))
      (r'.bind fun x => (afterBrace x.2).map (f x.1, ·)) := by
  refine followed.bind (fun a left short => ?_) (fun _ => .fails) fun _ _ => False.elim
  cases left with
  | nil => exact .fails
  | cons c rest =>
    simp only [List.cons_append, afterBrace]
    split
    · exact .same (Nat.le_of_succ_le short)
    · exact .fails

theorem decimal_ending (flags : Flags) : decimal flags ending = none := rfl

theorem mostCount_followed (flags : Flags) (cs : List Char) :
    Followed never cs.length (mostCount flags cs) (mostCount flags (cs ++ ending)) := by
  cases cs with
  | nil =>
    have behind : mostCount flags ending = none := by
      have none : decimal flags [')', '$'] = none := decimal_ending flags
      simp [mostCount, ending, none]
    rw [List.nil_append, behind]
    exact .fails
  | cons c rest =>
    simp only [List.cons_append, mostCount]
    split
    · exact .same (Nat.le_succ _)
    · exact afterBrace_followed (decimal_followed flags (c :: rest)) some

theorem bounds_followed (flags : Flags) (least : Nat) (cs : List Char) :
    Followed never cs.length (bounds flags least cs) (bounds flags least (cs ++ ending)) := by
  cases cs with
  | nil => exact .fails
  | cons c rest =>
    simp only [List.cons_append, bounds]
    split
    · exact .same (Nat.le_succ _)
    · split
      · have most := followed_skip flags rest .fails (mostCount_followed flags)
        have whole : Followed never rest.length _ _ := most.through
          (fun most => if most.all (least ≤ ·) = true then some (least, most) else none) fun _ _ _ _ => False.elim
        have form : ∀ r : Option (Option Nat × List Char), (r.bind fun x =>
            if x.1.all (least ≤ ·) = true then some ((least, x.1), x.2) else none) =
            r.bind fun x => (if x.1.all (least ≤ ·) = true then some (least, x.1) else none).map (·, x.2) := by
          intro r
          congr 1
          funext x
          split <;> rfl
        simp only [Option.bind_eq_bind, form]
        exact whole.mono (Nat.le_succ _)
      · exact .fails

theorem counts_followed (flags : Flags) (cs : List Char) :
    Followed never cs.length (counts flags cs) (counts flags (cs ++ ending)) :=
  (followed_skip flags cs .fails (decimal_followed flags)).bind
    (fun least left short => (bounds_followed flags least left).mono short) (fun _ => .fails)
    fun _ _ => False.elim

theorem preference_followed (flags : Flags) (cs : List Char) :
    Followed never cs.length (some (preference flags cs)) (some (preference flags (cs ++ ending))) := by
  cases cs with
  | nil => exact .same (Nat.le_refl _)
  | cons c rest =>
    by_cases marked : c = '?'
    · subst marked
      exact .same (Nat.le_succ _)
    · have stays : ∀ more, preference flags (c :: more) = (flags.reluctant, c :: more) := fun more => by
        simp [preference, marked]
      rw [List.cons_append, stays, stays]
      exact .same (Nat.le_refl _)

theorem simplePart_followed (flags : Flags) (c : Char) (rest : List Char) :
    Followed (fun _ left => left = ['$'] ∨ ∃ more, left = '{' :: more ∧ skip flags more = ending) rest.length
      (simplePart flags (c :: rest)) (simplePart flags (c :: (rest ++ ending))) := by
  simp only [simplePart]
  split
  · exact (escape_followed flags rest).through (atomPattern flags) fun atom left p _ stray =>
      stray.imp_right fun ⟨_, more, _, braces, same⟩ => ⟨more, braces, same⟩
  · cases plainPart flags c with
    | none => exact .fails
    | some p => exact .same (Nat.le_refl _)

namespace State

theorem repeatLast_followed (s : State) (least : Nat) (most : Option Nat) (cs : List Char) :
    Followed never cs.length (s.repeatLast least most cs) (s.repeatLast least most (cs ++ ending)) := by
  have whole : Followed never cs.length _ _ := (preference_followed s.flags cs).through
    (fun reluctant => (s.group.repeatLast least most reluctant).map fun g => { s with group := g })
    fun _ _ _ _ => False.elim
  simpa only [repeatLast, Option.bind_some, Option.map_map, Function.comp_def] using whole

theorem repeatCounted_followed (s : State) (cs : List Char) :
    Followed never cs.length
      ((counts s.flags cs).bind fun x => s.repeatLast x.1.1 x.1.2 (skip s.flags x.2))
      ((counts s.flags (cs ++ ending)).bind fun x => s.repeatLast x.1.1 x.1.2 (skip s.flags x.2)) := by
  have onNothing : ∀ least most bound,
      Followed never bound (s.repeatLast least most []) (s.repeatLast least most []) := by
    intro least most bound
    simp only [repeatLast, preference]
    cases s.group.repeatLast least most s.flags.reluctant with
    | none => exact .fails
    | some g => exact .swallowed
  refine (counts_followed s.flags cs).bind (fun (least, most) left short => ?_) (fun (least, most) => ?_)
    fun _ _ => False.elim
  · exact (followed_skip s.flags left (onNothing least most _)
      (repeatLast_followed s least most)).mono short
  · simp only [skip_nil]
    exact onNothing least most _

def signs : List Char := ['(', ')', '|', '[', '?', '*', '+', '\x7b']

theorem mem_signs {c : Char} :
    c ∈ signs ↔ c = '(' ∨ c = ')' ∨ c = '|' ∨ c = '[' ∨ c = '?' ∨ c = '*' ∨ c = '+' ∨ c = '\x7b' := by
  simp only [signs, List.mem_cons, List.not_mem_nil, or_false]

theorem next_simple (s : State) {c : Char} (simple : c ∉ signs) (rest : List Char) :
    s.next (c :: rest) = (simplePart s.flags (c :: rest)).map fun x => (s.add ⟨x.1, 0⟩, x.2) := by
  rw [mem_signs] at simple
  unfold next
  split <;> simp_all

theorem next_followed (s : State) (c : Char) (rest : List Char) :
    Followed Halted rest.length (s.next (c :: rest)) (s.next (c :: (rest ++ ending))) := by
  by_cases sign : c ∈ signs
  · rcases mem_signs.1 sign with rfl | rfl | rfl | rfl | rfl | rfl | rfl | rfl
    · exact openGroup_followed s rest
    · simp only [next]
      cases s.closeGroup with
      | none => exact .fails
      | some s => exact .same (Nat.le_refl _)
    · exact .same (Nat.le_refl _)
    · exact ((bracketClass_followed s.flags rest).map (fun set => s.add ⟨.one set.value, set.depth⟩)
        fun _ _ => id).anyway
    · exact (repeatLast_followed s 0 (some 1) rest).anyway
    · exact (repeatLast_followed s 0 none rest).anyway
    · exact (repeatLast_followed s 1 none rest).anyway
    · exact (repeatCounted_followed s rest).anyway
  · rw [next_simple s sign, next_simple s sign]
    exact (simplePart_followed s.flags c rest).map (s.add ⟨·, 0⟩) fun _ _ => id

end State

end BuildGate.Pattern.Reader
