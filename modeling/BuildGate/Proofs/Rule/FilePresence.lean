import BuildGate.Rule.FileList

namespace BuildGate.FileList

def Ungiven (file : Option String) : Prop := ∀ name, file = some name → Text.trim name = ""

theorem entry_eq_none_iff (file : Option String) : entry file = none ↔ Ungiven file := by
  cases file <;> simp [entry, Ungiven, Option.filter]

theorem entry_some {name : String} (given : Text.trim name ≠ "") : entry (some name) = some (Text.trim name) := by
  simp [entry, Option.filter, given]

def Refused (l : FileList) : Prop :=
  l.allowNulls = false ∧ (l.files = [] ∨ ∃ file ∈ l.files, Ungiven file)

theorem none_mem_entries_iff (l : FileList) : none ∈ l.entries ↔ ∃ file ∈ l.files, Ungiven file := by
  simp only [entries, List.mem_map, entry_eq_none_iff]

def refusal (l : FileList) : String :=
  if l.files = [] then "The file list is empty and Null files are disabled."
  else "A null filename was given and allow_nulls is false."

def located (directory name : String) : String :=
  if Path.isAbsolute name then name else Path.join directory name

theorem resolve_eq_located (ctx : Context) (name : String) : ctx.resolve name = located ctx.baseDir name := by
  unfold Context.resolve located
  split
  · rename_i absolute
    simp [Path.join, absolute]
  · rfl

/-- The places of a list, one after the other: nothing is given there, or a file that is missing, or one that
    exists. -/
inductive Parted (ctx : Context) : List (Option String) → List String → List String → Prop
  | nil : Parted ctx [] [] []
  | ungiven {file : Option String} {rest : List (Option String)} {missing existing : List String}
      (nothing : Ungiven file) (later : Parted ctx rest missing existing) :
      Parted ctx (file :: rest) missing existing
  | missing {name : String} {rest : List (Option String)} {missing existing : List String}
      (given : Text.trim name ≠ "")
      (absent : ctx.host.files.contains (located ctx.baseDir (Text.trim name)) = false)
      (later : Parted ctx rest missing existing) :
      Parted ctx (some name :: rest) (located ctx.baseDir (Text.trim name) :: missing) existing
  | existing {name : String} {rest : List (Option String)} {missing existing : List String}
      (given : Text.trim name ≠ "")
      (present : ctx.host.files.contains (located ctx.baseDir (Text.trim name)) = true)
      (later : Parted ctx rest missing existing) :
      Parted ctx (some name :: rest) missing (located ctx.baseDir (Text.trim name) :: existing)

/-- What comes of the paths that offend: nothing, or one violation with a line for each of them. -/
inductive Reports (l : FileList) (e : Expectation) : List String → Verdict → Prop
  | nothing : Reports l e [] .passed
  | lines {path : String} {more : List String} :
      Reports l e (path :: more)
        (.violation (l.message.getD e.header ++ String.join ((path :: more).map ("\n" ++ ·))))

def offendingIn (e : Expectation) (ctx : Context) (entries : List (Option String)) : List String :=
  ((entries.filterMap id).map ctx.resolve).filter fun path => !e.isSatisfied ctx.host.files path

def offending (l : FileList) (e : Expectation) (ctx : Context) : List String := offendingIn e ctx l.entries

theorem offendingIn_none (e : Expectation) (ctx : Context) (rest : List (Option String)) :
    offendingIn e ctx (none :: rest) = offendingIn e ctx rest := rfl

theorem offendingIn_some (e : Expectation) (ctx : Context) (name : String) (rest : List (Option String)) :
    offendingIn e ctx (some name :: rest) =
      if e.isSatisfied ctx.host.files (ctx.resolve name) = true then offendingIn e ctx rest
      else ctx.resolve name :: offendingIn e ctx rest := by
  cases satisfied : e.isSatisfied ctx.host.files (ctx.resolve name) <;> simp [offendingIn, satisfied]

theorem walk_ends (l : FileList) (e : Expectation) (ctx : Context) (entries : List (Option String))
    (found : List String) :
    (l.allowNulls = false ∧ none ∈ entries ∧
        l.walk e ctx entries found = .fatal "A null filename was given and allow_nulls is false.") ∨
      (¬ (l.allowNulls = false ∧ none ∈ entries) ∧
        l.Reports e (found ++ offendingIn e ctx entries) (l.walk e ctx entries found)) := by
  induction entries generalizing found with
  | nil =>
    refine .inr ⟨by simp, ?_⟩
    cases found with
    | nil => exact .nothing
    | cons path more => simpa [walk, violationText, offendingIn] using Reports.lines (l := l) (e := e)
  | cons entry rest ih =>
    cases entry with
    | none =>
      cases nulls : l.allowNulls with
      | false => exact .inl ⟨rfl, List.mem_cons_self, by simp [walk, nulls]⟩
      | true =>
        have step : l.walk e ctx (none :: rest) found = l.walk e ctx rest found := by simp [walk, nulls]
        rw [step, offendingIn_none]
        exact .inr ⟨by simp, ((ih found).resolve_left (by simp [nulls])).2⟩
    | some name =>
      have same : none ∈ some name :: rest ↔ none ∈ rest := by simp
      rw [same, offendingIn_some, walk]
      split
      · exact ih found
      · simpa using ih (found ++ [ctx.resolve name])

theorem verdict_refused {l : FileList} (refused : l.Refused) (e : Expectation) (ctx : Context) :
    l.verdict e ctx = .fatal l.refusal := by
  obtain ⟨required, empty | ungiven⟩ := refused
  · simp [verdict, refusal, required, empty]
  · have left := (none_mem_entries_iff l).2 ungiven
    have listed : l.files ≠ [] := by
      obtain ⟨file, member, -⟩ := ungiven
      exact List.ne_nil_of_mem member
    rcases l.walk_ends e ctx l.entries [] with ⟨-, -, fatal⟩ | ⟨given, -⟩
    · simp [verdict, refusal, listed, fatal]
    · exact absurd ⟨required, left⟩ given

theorem verdict_reports {l : FileList} (accepted : ¬ l.Refused) (e : Expectation) (ctx : Context) :
    l.Reports e (l.offending e ctx) (l.verdict e ctx) := by
  have nonempty : ¬ ((!l.allowNulls && l.files.isEmpty) = true) := by
    intro empty
    simp only [Bool.and_eq_true, Bool.not_eq_true', List.isEmpty_iff] at empty
    exact accepted ⟨empty.1, .inl empty.2⟩
  rw [verdict, if_neg nonempty]
  rcases l.walk_ends e ctx l.entries [] with ⟨required, left, -⟩ | ⟨-, reports⟩
  · exact absurd ⟨required, .inr ((none_mem_entries_iff l).1 left)⟩ accepted
  · exact reports

theorem Reports.not_fatal {l : FileList} {e : Expectation} {paths : List String} {verdict : Verdict}
    (reports : l.Reports e paths verdict) (message : String) : verdict ≠ .fatal message := by
  cases reports <;> simp

theorem Reports.passed_iff {l : FileList} {e : Expectation} {paths : List String} {verdict : Verdict}
    (reports : l.Reports e paths verdict) : verdict = .passed ↔ paths = [] := by
  cases reports <;> simp

theorem parted_offending (ctx : Context) (files : List (Option String)) :
    Parted ctx files (offendingIn .present ctx (files.map entry)) (offendingIn .absent ctx (files.map entry)) := by
  induction files with
  | nil => exact .nil
  | cons file rest ih =>
    by_cases ungiven : Ungiven file
    · rw [List.map_cons, (entry_eq_none_iff file).2 ungiven]
      exact .ungiven ungiven ih
    · obtain ⟨name, rfl, given⟩ : ∃ name, file = some name ∧ Text.trim name ≠ "" := by
        simpa [Ungiven] using ungiven
      rw [List.map_cons, entry_some given, offendingIn_some, offendingIn_some, resolve_eq_located]
      cases there : ctx.host.files.contains (located ctx.baseDir (Text.trim name)) with
      | false =>
        simp only [Expectation.isSatisfied, there, Bool.not_false, Bool.false_eq_true, ↓reduceIte]
        exact .missing given there ih
      | true =>
        simp only [Expectation.isSatisfied, there, Bool.not_true, Bool.false_eq_true, ↓reduceIte]
        exact .existing given there ih

/-- The two rules refuse the same lists. Of a list that is not refused, the one reports the files that are missing
    and the other those that exist, and every place of the list goes to one of the two or gives no file. -/
theorem reports_parted (l : FileList) (ctx : Context) (log : Expectation → Option RuleLog) :
    let verdict := fun e => ((l.rule e (log e)).run ctx).verdict
    (∀ e message, verdict e = .fatal message ↔ l.Refused ∧ message = l.refusal) ∧
      (l.Refused ∨ ∃ missing existing, Parted ctx l.files missing existing ∧
        l.Reports .present missing (verdict .present) ∧ l.Reports .absent existing (verdict .absent)) := by
  intro verdict
  have ran : ∀ e, verdict e = l.verdict e ctx := fun _ => rfl
  constructor
  · intro e message
    rw [ran]
    by_cases refused : l.Refused
    · rw [verdict_refused refused, Verdict.fatal.injEq, and_iff_right refused, eq_comm]
    · have reports := verdict_reports refused e ctx
      simp [refused, reports.not_fatal message]
  · by_cases refused : l.Refused
    · exact .inl refused
    · refine .inr ⟨_, _, parted_offending ctx l.files, ?_, ?_⟩
      · exact verdict_reports refused .present ctx
      · exact verdict_reports refused .absent ctx

/-- A null behind a file that offends, and two files that are given twice. -/
example :
    let files : FileSystem := ⟨"/", fun path => if path = "/m/a" then some (.regular "") else none⟩
    let ctx := Context.new ⟨files, ∅⟩ "/m"
    let l := FileList.mk [some "a", some " ", some "b", none, some " a ", some "/b"] true none
    l.verdict .present ctx = .violation "Some required files are missing:\n/m/b\n/b" ∧
      l.verdict .absent ctx = .violation "Some files should not exist:\n/m/a\n/m/a" ∧
      { l with allowNulls := false }.verdict .present ctx =
        .fatal "A null filename was given and allow_nulls is false." := by
  decide

end BuildGate.FileList
