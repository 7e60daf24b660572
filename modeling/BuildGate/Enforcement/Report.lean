import BuildGate.Document.Value
import BuildGate.Severity

namespace BuildGate

inductive Outcome where
  | passed
  | failed (message : String)
  /-- The rule ended the pass; found in the last result of an aborted pass only. -/
  | fatallyErrored (message : String)
  | skippedCached
  deriving DecidableEq, Repr

namespace Outcome

def name : Outcome → String
  | passed => "passed"
  | failed _ => "failed"
  | fatallyErrored _ => "fatally_errored"
  | skippedCached => "skipped_cached"

def message? : Outcome → Option String
  | failed message | fatallyErrored message => some message
  | passed | skippedCached => none

def isFailed : Outcome → Bool
  | failed _ => true
  | _ => false

end Outcome

structure RuleResult where
  index : Nat
  name : String
  implementation : String
  level : Severity
  outcome : Outcome
  deriving DecidableEq, Repr

structure Report where
  skipped : Bool
  results : List RuleResult
  deriving DecidableEq, Repr

namespace Report

def empty : Report := ⟨false, []⟩

def ofSkipped : Report := ⟨true, []⟩

def count (report : Report) (p : Outcome → Bool) : Nat :=
  report.results.countP fun r => p r.outcome

def passedCount (report : Report) : Nat := report.count (· == .passed)

def cachedCount (report : Report) : Nat := report.count (· == .skippedCached)

def failedCount (report : Report) : Nat := report.count Outcome.isFailed

def result? (report : Report) (index : Nat) : Option RuleResult :=
  report.results.find? (·.index == index)

end Report

namespace RuleResult

/-- The fields of a result, in the order in which reports print them. Checks are not timed. -/
def document (r : RuleResult) : Value :=
  .record (
    [("index", .int r.index), ("name", .text r.name), ("implementation", .text r.implementation),
      ("level", .text r.level.name), ("outcome", .text r.outcome.name)]
    ++ (match r.outcome.message? with
        | some message => [("message", .text message)]
        | none => [])
    ++ [("duration_ms", .int 0)])

end RuleResult

def Report.document (report : Report) (timestamp : String) : Value :=
  .record [("timestamp", .text timestamp), ("skipped", .bool report.skipped),
    ("results", .list (report.results.map RuleResult.document))]

end BuildGate
