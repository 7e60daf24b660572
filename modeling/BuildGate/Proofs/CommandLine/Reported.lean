import BuildGate.CommandLine.Program
import BuildGate.Proofs.CommandLine.Passes
import BuildGate.Proofs.Document.Printed

namespace BuildGate.CommandLine

/-- The fields that a result has in a report, without its outcome. -/
def ResultFields (r : RuleResult) (outcome : List (String × Value)) : Value :=
  .record ([("index", .int r.index), ("name", .text r.name), ("implementation", .text r.implementation),
    ("level", .text (match r.level with | .warn => "WARN" | .error => "ERROR"))] ++ outcome ++
    [("duration_ms", .int 0)])

inductive ResultDocument (r : RuleResult) : Value → Prop
  | passed (ended : r.outcome = .passed) : ResultDocument r (ResultFields r [("outcome", .text "passed")])
  | skipped (ended : r.outcome = .skippedCached) :
      ResultDocument r (ResultFields r [("outcome", .text "skipped_cached")])
  | failed {message : String} (ended : r.outcome = .failed message) :
      ResultDocument r (ResultFields r [("outcome", .text "failed"), ("message", .text message)])
  | broken {message : String} (ended : r.outcome = .fatallyErrored message) :
      ResultDocument r (ResultFields r [("outcome", .text "fatally_errored"), ("message", .text message)])

def ReportFields (timestamp : String) (report : Report) (results : List Value) : Value :=
  .record [("timestamp", .text timestamp), ("skipped", .bool report.skipped), ("results", .list results)]

inductive ReportLine (timestamp directory : String) (report : Report) : Bool → String → Prop
  | document {results : List Value} (each : List.Forall₂ ResultDocument report.results results)
      (prints : (ReportFields timestamp report results).Prints
        ((ReportFields timestamp report results).pretty 0).toList) :
      ReportLine timestamp directory report true ((ReportFields timestamp report results).pretty 0)
  | skipped (off : report.skipped = true) :
      ReportLine timestamp directory report false ("[" ++ directory ++ "] " ++ "skipped")
  | counted (on : report.skipped = false) :
      ReportLine timestamp directory report false
        ("[" ++ directory ++ "] " ++ toString (report.results.countP (·.outcome = .passed)) ++ " passed, "
          ++ toString (report.results.countP (·.outcome = .skippedCached)) ++ " cached, "
          ++ toString (report.results.countP fun r => match r.outcome with | .failed _ => true | _ => false)
          ++ " failed without breaking the build")

inductive FailureText : Failure → String → Prop
  | violation (text : String) : FailureText (.violation text) text
  | aggregate (texts : List String) : FailureText (.aggregate texts) (String.intercalate "\n" texts)
  | fatal (index : Nat) (implementation message : String) (report : Report) :
      FailureText (.fatal index implementation message report)
        ("Rule " ++ toString index ++ ": " ++ implementation ++ " failed with fatal error:\n" ++ message)
  | creation (name implementation : String) :
      FailureText (.creation name implementation)
        ("Failed to create enforcer rules with name: " ++ name ++ " or for class: " ++ implementation)
  | configuration (rule reason : String) :
      FailureText (.configuration rule reason) ("Failed to configure rule " ++ rule ++ ": " ++ reason)
  | noRules :
      FailureText .noRules "No rules are configured. Use the skip flag if you want to disable execution."
  | settings (message : String) (source : Option String) :
      FailureText (.settings message source) ("Configuration error: " ++ message)

/-- The text on a module whose pass failed: for want of a verdict, or because rules failed. -/
inductive ErrorLine (directory : String) (failure : Failure) : String → Prop
  | unjudged {text : String} (told : FailureText failure text) (single : ∀ message, failure ≠ .violation message)
      (several : ∀ messages, failure ≠ .aggregate messages) :
      ErrorLine directory failure ("[" ++ directory ++ "] " ++ text)
  | rulesFailed {text : String} (told : FailureText failure text)
      (policy : (∃ message, failure = .violation message) ∨ ∃ messages, failure = .aggregate messages) :
      ErrorLine directory failure ("[" ++ directory ++ "] " ++ "Some rules have failed:\n" ++ text)

inductive NoteLine (directory : String) (r : RuleResult) : String → Prop
  | note : NoteLine directory r
      ("[" ++ directory ++ "] " ++ "Rule " ++ toString r.index ++ ": " ++ r.implementation
        ++ " was not checked here, an equivalent rule ran in another module; "
        ++ "rerun with --ignore-cache to check it")

theorem ResultDocument.document (r : RuleResult) : ResultDocument r r.document := by
  obtain ⟨index, name, implementation, level, outcome⟩ := r
  cases level <;> cases outcome with
  | passed => exact .passed rfl
  | skippedCached => exact .skipped rfl
  | failed message => exact .failed rfl
  | fatallyErrored message => exact .broken rfl

theorem ReportLine.summary (timestamp directory : String) (report : Report) (json : Bool) :
    ReportLine timestamp directory report json
      (if json then (report.document timestamp).pretty 0 else tagged directory (CommandLine.summary report)) := by
  cases json with
  | true =>
    have each : List.Forall₂ ResultDocument report.results (report.results.map RuleResult.document) := by
      rw [List.forall₂_map_right_iff, List.forall₂_same]
      exact fun r _ => .document r
    exact .document each (Value.prints_pretty 0 _)
  | false =>
    cases skipped : report.skipped with
    | true =>
      simpa [tagged, CommandLine.summary, skipped] using ReportLine.skipped skipped
    | false =>
      have counts : report.failedCount =
          report.results.countP fun r => match r.outcome with | .failed _ => true | _ => false := rfl
      simpa [tagged, CommandLine.summary, skipped, Report.passedCount, Report.cachedCount, Report.count, counts,
        beq_eq_decide, String.append_assoc] using ReportLine.counted skipped

theorem FailureText.message (failure : Failure) : FailureText failure failure.message := by
  cases failure with
  | violation text => exact .violation text
  | aggregate texts => exact .aggregate texts
  | fatal index implementation message report => exact .fatal index implementation message report
  | creation name implementation => exact .creation name implementation
  | configuration rule reason => exact .configuration rule reason
  | noRules => exact .noRules
  | settings message source => exact .settings message source

theorem ErrorLine.tagged (directory : String) (failure : Failure) :
    ErrorLine directory failure (CommandLine.tagged directory
      (if failure.isPolicy then "Some rules have failed:\n" ++ failure.message else failure.message)) := by
  have told := FailureText.message failure
  cases failure with
  | violation text =>
    have line := @ErrorLine.rulesFailed directory _ _ told (.inl ⟨text, rfl⟩)
    simpa only [CommandLine.tagged, Failure.isPolicy, ↓reduceIte, String.append_assoc, -String.reduceAppend] using line
  | aggregate texts =>
    have line := @ErrorLine.rulesFailed directory _ _ told (.inr ⟨texts, rfl⟩)
    simpa only [CommandLine.tagged, Failure.isPolicy, ↓reduceIte, String.append_assoc, -String.reduceAppend] using line
  | fatal | creation | configuration | noRules | settings => exact .unjudged told nofun nofun

theorem NoteLine.cachedNotes (directory : String) (report : Report) :
    List.Forall₂ (NoteLine directory) (report.results.filter (·.outcome = .skippedCached))
      (CommandLine.cachedNotes directory report) := by
  rw [CommandLine.cachedNotes, List.forall₂_map_right_iff]
  simp only [beq_eq_decide, List.forall₂_same]
  intro r _
  have line := @NoteLine.note directory r
  simpa only [tagged, String.append_assoc, -String.reduceAppend] using line

namespace CheckRun

end CheckRun

end BuildGate.CommandLine
