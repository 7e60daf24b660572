import BuildGate.Text.Blank
import BuildGate.Text.Case

namespace BuildGate

inductive Severity where
  | warn
  | error
  deriving DecidableEq, Repr

namespace Severity

instance : Inhabited Severity := ⟨error⟩

def name : Severity → String
  | warn => "WARN"
  | error => "ERROR"

def isBuildBreaking : Severity → Bool
  | warn => false
  | error => true

def rank : Severity → Nat
  | warn => 0
  | error => 1

def compare (s t : Severity) : Ordering := Ord.compare s.rank t.rank

/-- A severity in any case, between blanks; `warning` stands for `warn`. -/
def read? (text : String) : Option Severity :=
  let word := Text.upper (Text.trim text)
  if word = "ERROR" then some error
  else if word = "WARN" ∨ word = "WARNING" then some warn
  else none

def spellings : List (String × Severity) :=
  [("WARN", warn), ("WARNING", warn), ("warn", warn), ("warning", warn), ("ERROR", error),
    ("error", error)]

end Severity

end BuildGate
