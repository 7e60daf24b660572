import BuildGate.Pattern.Escape

namespace BuildGate.Pattern.Reader

/-- What stands behind the text. -/
def ending : List Char := [')', '$']

/-- How a reader gets on with something behind the text, and how with the text alone: the second result is the one
    with something behind. `stuck` holds of results behind the end of a text that alone ends too early. -/
inductive Followed {α : Type} (stuck : α → List Char → Prop) (bound : Nat) :
    Option (α × List Char) → Option (α × List Char) → Prop
  | fails : Followed stuck bound none none
  | same {a : α} {left : List Char} (short : left.length ≤ bound) :
    Followed stuck bound (some (a, left)) (some (a, left ++ ending))
  | swallowed {a : α} : Followed stuck bound (some (a, [])) (some (a, []))
  | stuck {a : α} {rest : List Char} (behind : stuck a rest) : Followed stuck bound none (some (a, rest))

namespace Followed

variable {α β : Type} {stuck : α → List Char → Prop} {stuck' : β → List Char → Prop} {bound bound' : Nat}
  {r r' : Option (α × List Char)}

theorem mono (followed : Followed stuck bound r r') (more : bound ≤ bound') : Followed stuck bound' r r' := by
  cases followed with
  | fails => exact .fails
  | same short => exact .same (Nat.le_trans short more)
  | swallowed => exact .swallowed
  | stuck behind => exact .stuck behind

theorem map (followed : Followed stuck bound r r') (f : α → β)
    (behind : ∀ a rest, stuck a rest → stuck' (f a) rest) :
    Followed stuck' bound (r.map fun x => (f x.1, x.2)) (r'.map fun x => (f x.1, x.2)) := by
  cases followed with
  | fails => exact .fails
  | same short => exact .same short
  | swallowed => exact .swallowed
  | stuck h => exact .stuck (behind _ _ h)

theorem through (followed : Followed stuck bound r r') (f : α → Option β)
    (behind : ∀ a rest b, f a = some b → stuck a rest → stuck' b rest) :
    Followed stuck' bound (r.bind fun x => (f x.1).map (·, x.2)) (r'.bind fun x => (f x.1).map (·, x.2)) := by
  cases followed with
  | fails => exact .fails
  | @same a left short =>
    cases result : f a with
    | none => simp only [Option.bind_some, result, Option.map_none]; exact .fails
    | some b => simp only [Option.bind_some, result, Option.map_some]; exact .same short
  | @swallowed a =>
    cases result : f a with
    | none => simp only [Option.bind_some, result, Option.map_none]; exact .fails
    | some b => simp only [Option.bind_some, result, Option.map_some]; exact .swallowed
  | @stuck a rest h =>
    cases result : f a with
    | none => simp only [Option.bind_none, Option.bind_some, result, Option.map_none]; exact .fails
    | some b =>
      simp only [Option.bind_none, Option.bind_some, result, Option.map_some]
      exact .stuck (behind a rest b result h)

theorem bind (followed : Followed stuck bound r r') {f : α × List Char → Option (β × List Char)}
    (same : ∀ a left, left.length ≤ bound → Followed stuck' bound' (f (a, left)) (f (a, left ++ ending)))
    (swallowed : ∀ a, Followed stuck' bound' (f (a, [])) (f (a, [])))
    (behind : ∀ a rest, stuck a rest → Followed stuck' bound' none (f (a, rest))) :
    Followed stuck' bound' (r.bind f) (r'.bind f) := by
  cases followed with
  | fails => exact .fails
  | same short => exact same _ _ short
  | swallowed => exact swallowed _
  | stuck h => exact behind _ _ h

end Followed

def never {α : Type} (_ : α) (_ : List Char) : Prop := False

theorem Followed.anyway {α : Type} {stuck : α → List Char → Prop} {bound : Nat}
    {r r' : Option (α × List Char)} (followed : Followed never bound r r') : Followed stuck bound r r' := by
  cases followed with
  | fails => exact .fails
  | same short => exact .same short
  | swallowed => exact .swallowed
  | stuck h => exact h.elim

theorem skipSpaced_followed (inComment : Bool) (cs : List Char) :
    (skipSpaced inComment (cs ++ ending) = skipSpaced inComment cs ++ ending ∧
      (skipSpaced inComment cs).length ≤ cs.length) ∨
    (skipSpaced inComment (cs ++ ending) = [] ∧ skipSpaced inComment cs = []) := by
  induction cs generalizing inComment with
  | nil =>
    cases inComment with
    | true => exact .inr ⟨rfl, rfl⟩
    | false => exact .inl ⟨rfl, Nat.le_refl _⟩
  | cons c rest ih =>
    have weaken : ∀ b, (skipSpaced b (rest ++ ending) = skipSpaced b rest ++ ending ∧
          (skipSpaced b rest).length ≤ (c :: rest).length) ∨
        (skipSpaced b (rest ++ ending) = [] ∧ skipSpaced b rest = []) := fun b =>
      (ih b).imp_left fun ⟨same, short⟩ => ⟨same, Nat.le_succ_of_le short⟩
    simp only [List.cons_append, skipSpaced]
    split
    · exact weaken _
    · split
      · exact weaken _
      · split
        · exact weaken _
        · exact .inl ⟨rfl, Nat.le_refl _⟩

theorem skip_followed (flags : Flags) (cs : List Char) :
    (skip flags (cs ++ ending) = skip flags cs ++ ending ∧ (skip flags cs).length ≤ cs.length) ∨
    (skip flags (cs ++ ending) = [] ∧ skip flags cs = []) := by
  unfold skip
  split
  · exact skipSpaced_followed false cs
  · exact .inl ⟨rfl, Nat.le_refl _⟩

@[simp] theorem skip_nil (flags : Flags) : skip flags [] = [] := by
  unfold skip
  split <;> rfl

@[simp] theorem skip_paren (flags : Flags) (rest : List Char) : skip flags (')' :: rest) = ')' :: rest := by
  unfold skip
  split <;> rfl

@[simp] theorem skip_dollar (flags : Flags) (rest : List Char) : skip flags ('$' :: rest) = '$' :: rest := by
  unfold skip
  split <;> rfl

theorem dropWhile_isBlank_followed (cs : List Char) :
    (cs ++ ending).dropWhile Text.isBlank = cs.dropWhile Text.isBlank ++ ending := by
  rw [List.dropWhile_append]
  split
  · rename_i none
    rw [List.isEmpty_iff.1 none]
    rfl
  · rfl

@[simp] theorem skip_ending (flags : Flags) : skip flags ending = ending := skip_paren flags ['$']

theorem hexDigits_ending (flags : Flags) {n : Nat} (wanted : n ≠ 0) : hexDigits flags n ending = none := by
  obtain ⟨n, rfl⟩ := Nat.exists_eq_succ_of_ne_zero wanted
  rfl

theorem hexDigits_followed (flags : Flags) (n : Nat) (cs : List Char) :
    Followed never cs.length (hexDigits flags n cs) (hexDigits flags n (cs ++ ending)) := by
  induction n generalizing cs with
  | zero => exact .same (Nat.le_refl _)
  | succ n ih =>
    cases cs with
    | nil =>
      exact .fails
    | cons c rest =>
      simp only [List.cons_append, hexDigits]
      split
      · rcases skip_followed flags rest with ⟨same, short⟩ | ⟨swallowed, none⟩
        · rw [same]
          exact ((ih _).map (c :: ·) fun _ _ => id).mono (Nat.le_succ_of_le short)
        · rw [swallowed, none]
          cases n with
          | zero => exact .swallowed
          | succ n => exact .fails
      · exact .fails

theorem braced_ending (flags : Flags) (fuel : Nat) : braced flags fuel ending = none := by
  obtain _ | _ | _ | fuel := fuel <;> simp [braced, ending]

theorem braced_skip {flags : Flags} (fuel : Nat) (cs more : List Char) (same : skip flags cs = skip flags more) :
    braced flags fuel cs = braced flags fuel more := by
  cases fuel with
  | zero => rfl
  | succ fuel => simp only [braced, same]

theorem braced_followed (flags : Flags) {fuel fuel' : Nat} {cs : List Char} (enough : cs.length < fuel)
    (enough' : (cs ++ ending).length < fuel') :
    Followed never cs.length (braced flags fuel cs) (braced flags fuel' (cs ++ ending)) := by
  induction fuel generalizing cs fuel' with
  | zero => omega
  | succ fuel ih =>
    obtain _ | fuel' := fuel'
    · omega
    rcases skip_followed flags cs with ⟨same, short⟩ | ⟨swallowed, none⟩
    · cases left : skip flags cs with
      | nil =>
        rw [left] at same
        rw [braced_skip _ _ ending (same.trans (skip_ending flags).symm), braced_ending]
        simp only [braced, left]
        exact .fails
      | cons c rest =>
        rw [left, List.cons_append] at same
        rw [left, List.length_cons] at short
        by_cases ends : c = '}'
        · subst ends
          simp only [braced, left, same]
          exact .same (by omega)
        · simp only [braced, left, same]
          simp only [List.length_append] at enough'
          have inner := ih (show rest.length < fuel by omega)
            (show (rest ++ ending).length < fuel' by simp only [List.length_append]; omega)
          exact (inner.map (c :: ·) fun _ _ => id).mono (by omega)
    · simp only [braced, swallowed, none]
      exact .fails

theorem skip_followed_some {α : Type} {stuck : α → List Char → Prop} (flags : Flags) (a : α)
    {left : List Char} {bound : Nat} (short : left.length ≤ bound) :
    Followed stuck bound (some (a, skip flags left)) (some (a, skip flags (left ++ ending))) := by
  rcases skip_followed flags left with ⟨same, shorter⟩ | ⟨swallowed, none⟩
  · rw [same]
    exact .same (Nat.le_trans shorter short)
  · rw [swallowed, none]
    exact .swallowed

theorem Followed.mapSkip {α β : Type} {bound : Nat} {r r' : Option (α × List Char)} (flags : Flags)
    (followed : Followed never bound r r') (f : α → β) :
    Followed never bound (r.map fun x => (f x.1, skip flags x.2)) (r'.map fun x => (f x.1, skip flags x.2)) := by
  cases followed with
  | fails => exact .fails
  | same short => exact skip_followed_some flags _ short
  | swallowed =>
    simp only [Option.map_some, skip_nil]
    exact .swallowed
  | stuck h => exact h.elim

theorem followed_skip {α : Type} {stuck : α → List Char → Prop} (flags : Flags) (cs : List Char)
    {f : List Char → Option (α × List Char)} (nothing : Followed stuck cs.length (f []) (f []))
    (followed : ∀ left, Followed stuck left.length (f left) (f (left ++ ending))) :
    Followed stuck cs.length (f (skip flags cs)) (f (skip flags (cs ++ ending))) := by
  rcases skip_followed flags cs with ⟨same, short⟩ | ⟨swallowed, none⟩
  · rw [same]
    exact (followed _).mono short
  · rw [swallowed, none]
    exact nothing

theorem braced_rest_followed (flags : Flags) (rest : List Char) :
    Followed never rest.length (braced flags (rest.length + 1) rest)
      (braced flags ((rest ++ ending).length + 1) (rest ++ ending)) :=
  braced_followed flags (Nat.lt_succ_self _) (Nat.lt_succ_self _)

theorem hexNumber_followed (flags : Flags) (kind : Char) (cs : List Char) :
    Followed never cs.length (hexNumber flags kind cs) (hexNumber flags kind (cs ++ ending)) := by
  cases cs with
  | nil =>
    have missing : hexNumber flags kind ending = none := by
      have wanted : (if kind = 'x' then 2 else if kind = 'u' then 4 else 8) ≠ 0 := by split <;> (try split) <;> decide
      have none : hexDigits flags _ [')', '$'] = none := hexDigits_ending flags wanted
      simp [hexNumber, ending, none]
    rw [List.nil_append, missing]
    exact .fails
  | cons c rest =>
    simp only [List.cons_append, hexNumber]
    split
    · exact ((braced_rest_followed flags rest).mapSkip flags (·, false)).mono (Nat.le_succ _)
    · exact (hexDigits_followed flags _ (c :: rest)).map (·, kind == 'x') fun _ _ => id

/-- An atom that was read although the text alone ends too early. The parenthesis behind the text was taken for a part
    of it, or braces behind a word boundary are left. -/
def Stray (flags : Flags) (atom : Atom) (rest : List Char) : Prop :=
  rest = ['$'] ∨ ∃ l more, atom = .condition l ∧ rest = '{' :: more ∧ skip flags more = ending

theorem hexEscape_followed (flags : Flags) (kind : Char) (cs : List Char) :
    Followed (Stray flags) cs.length (hexEscape flags kind cs) (hexEscape flags kind (cs ++ ending)) := by
  have number := followed_skip flags cs .fails (hexNumber_followed flags kind)
  have whole : Followed (Stray flags) cs.length _ _ :=
    number.through (fun x => (charOfHex x.1).map fun c => Atom.literal c x.2)
    fun _ _ _ _ => False.elim
  simpa only [hexEscape, Option.bind_eq_bind, Option.map_map, Function.comp_def] using whole

theorem className_followed (flags : Flags) (cs : List Char) :
    Followed (fun _ rest => rest = ['$']) cs.length (className flags cs) (className flags (cs ++ ending)) := by
  cases cs with
  | nil =>
    simp only [List.nil_append, ending, className, Char.reduceEq, ↓reduceIte]
    exact .stuck (skip_dollar flags [])
  | cons c rest =>
    simp only [List.cons_append, className]
    split
    · exact (braced_rest_followed flags rest).anyway.mono (Nat.le_succ _)
    · split
      · exact .fails
      · exact skip_followed_some flags _ (Nat.le_succ _)

theorem classEscape_followed (flags : Flags) (negate : Bool) (cs : List Char) :
    Followed (Stray flags) cs.length (classEscape flags negate cs) (classEscape flags negate (cs ++ ending)) := by
  have name := followed_skip flags cs .fails (className_followed flags)
  have whole : Followed (Stray flags) cs.length _ _ := name.through (fun x => (namedSet flags negate x).map Atom.set)
    fun _ _ _ _ => .inl
  simpa only [classEscape, Option.bind_eq_bind, Option.map_map, Function.comp_def] using whole

theorem boundaryName_nil (flags : Flags) (fuel : Nat) : boundaryName flags fuel [] = none := by
  cases fuel <;> rfl

theorem boundaryName_ending (flags : Flags) (fuel : Nat) : boundaryName flags fuel ending = none := by
  cases fuel <;> rfl

theorem boundaryName_followed (flags : Flags) {fuel fuel' : Nat} {cs : List Char}
    (enough : cs.length < fuel) (enough' : (cs ++ ending).length < fuel') :
    Followed never cs.length (boundaryName flags fuel cs) (boundaryName flags fuel' (cs ++ ending)) := by
  induction fuel generalizing cs fuel' with
  | zero => omega
  | succ fuel ih =>
    obtain _ | fuel' := fuel'
    · omega
    cases cs with
    | nil =>
      rw [List.nil_append, boundaryName_ending, boundaryName_nil]
      exact .fails
    | cons c rest =>
      by_cases ends : c = '}'
      · subst ends
        exact .same (Nat.le_succ _)
      · simp only [List.cons_append, boundaryName]
        split
        · simp only [List.length_append, List.length_cons] at enough enough'
          rcases skip_followed flags rest with ⟨same, short⟩ | ⟨swallowed, none⟩
          · rw [same]
            have later := ih (show (skip flags rest).length < fuel by omega)
              (show (skip flags rest ++ ending).length < fuel' by simp only [List.length_append]; omega)
            exact (later.map (c :: ·) fun _ _ => id).mono (Nat.le_succ_of_le short)
          · rw [swallowed, none, boundaryName_nil, boundaryName_nil]
            exact .fails
        · exact .fails

theorem boundaryBraces_followed (flags : Flags) (cs : List Char) :
    Followed (fun _ rest => ∃ more, rest = '{' :: more ∧ skip flags more = ending) cs.length
      (boundaryBraces flags cs) (boundaryBraces flags (cs ++ ending)) := by
  cases cs with
  | nil =>
    exact .same (Nat.le_refl _)
  | cons c rest =>
    simp only [List.cons_append, boundaryBraces]
    split
    · rename_i opens
      rcases skip_followed flags rest with ⟨same, short⟩ | ⟨swallowed, none⟩
      · cases left : skip flags rest with
        | nil =>
          have outside : isBoundaryChar ')' = false := rfl
          rw [left, List.nil_append] at same
          rw [same, opens]
          simp only [ending, outside, Bool.false_eq_true, ↓reduceIte]
          exact .stuck ⟨_, rfl, same⟩
        | cons first more =>
          rw [same, left]
          simp only [List.cons_append]
          rw [left, List.length_cons] at short
          split
          · have name := boundaryName_followed flags
              (show (first :: more).length < more.length + 2 by simp)
              (show (first :: more ++ ending).length < (more ++ ending).length + 2 by simp)
            exact (name.anyway.map some fun _ _ => id).mono (Nat.le_succ_of_le short)
          · exact .same (Nat.le_refl _)
      · rw [swallowed, none]
        exact .fails
    · exact .same (Nat.le_refl _)

theorem boundaryEscape_followed (flags : Flags) (cs : List Char) :
    Followed (Stray flags) cs.length (boundaryEscape flags cs) (boundaryEscape flags (cs ++ ending)) := by
  have whole : Followed (Stray flags) cs.length _ _ := (boundaryBraces_followed flags cs).through
    (fun x => (boundary (wordsOf flags) x).map Atom.condition) fun name? rest atom condition ⟨more, braces, same⟩ => by
      obtain ⟨l, -, rfl⟩ := Option.map_eq_some_iff.1 condition
      exact .inr ⟨l, more, rfl, braces, same⟩
  simpa only [boundaryEscape, Option.bind_eq_bind, Option.map_map, Function.comp_def] using whole

theorem escape_followed (flags : Flags) (cs : List Char) :
    Followed (Stray flags) cs.length (escape flags cs) (escape flags (cs ++ ending)) := by
  cases cs with
  | nil =>
    exact .stuck (.inl rfl)
  | cons c rest =>
    simp only [List.cons_append, escape]
    split
    · exact (hexEscape_followed flags c rest).mono (Nat.le_succ _)
    · split
      · exact (classEscape_followed flags _ rest).mono (Nat.le_succ _)
      · split
        · exact (boundaryEscape_followed flags rest).mono (Nat.le_succ _)
        · cases plainEscape flags c with
          | none => exact .fails
          | some atom => exact .same (Nat.le_succ _)

end BuildGate.Pattern.Reader
