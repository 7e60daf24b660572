import BuildGate.Text.Case

namespace BuildGate.Log

inductive Level where
  | error
  | warn
  | info
  | debug
  | trace
  deriving DecidableEq, Repr

namespace Level

def name : Level → String
  | error => "ERROR"
  | warn => "WARN"
  | info => "INFO"
  | debug => "DEBUG"
  | trace => "TRACE"

def detail : Level → Nat
  | error => 1
  | warn => 2
  | info => 3
  | debug => 4
  | trace => 5

def isWithin (l limit : Level) : Bool := l.detail ≤ limit.detail

def read? (text : String) : Option Level :=
  let word := Text.lower text
  if word = "trace" then some trace
  else if word = "debug" then some debug
  else if word = "info" then some info
  else if word = "warn" ∨ word = "warning" then some warn
  else if word = "error" then some error
  else none

end Level

end BuildGate.Log
