import BuildGate.Enforcement.Report
import BuildGate.Log.Level

namespace BuildGate

inductive Failure where
  | creation (name implementation : String)
  | configuration (rule reason : String)
  /-- A rule ended the run; the report reaches up to it. -/
  | fatal (index : Nat) (implementation message : String) (report : Report)
  | violation (message : String)
  | aggregate (messages : List String)
  | noRules
  | settings (message : String) (source : Option String)
  deriving DecidableEq, Repr

namespace Failure

def message : Failure → String
  | creation name implementation =>
    "Failed to create enforcer rules with name: " ++ name ++ " or for class: " ++ implementation
  | configuration rule reason => "Failed to configure rule " ++ rule ++ ": " ++ reason
  | fatal index implementation message _ =>
    "Rule " ++ toString index ++ ": " ++ implementation ++ " failed with fatal error:\n" ++ message
  | violation message => message
  | aggregate messages => String.intercalate "\n" messages
  | noRules =>
    "No rules are configured. Use the skip flag if you want to disable execution."
  | settings message _ => "Configuration error: " ++ message

def isPolicy : Failure → Bool
  | violation _ | aggregate _ => true
  | _ => false

def messages : Failure → List String
  | aggregate messages => messages
  | violation message => [message]
  | failure => [failure.message]

def ofFault (context fault : String) : Failure :=
  .settings (context ++ ": " ++ fault) (some fault)

end Failure

def failureText (index : Nat) (implementation message : String) : String :=
  "Rule " ++ toString index ++ ": " ++ implementation ++ " failed with message:\n" ++ message

def warningText (index : Nat) (implementation message : String) : String :=
  "Rule " ++ toString index ++ ": " ++ implementation ++ " warned with message:\n" ++ message

def Log.Level.parse (text : String) : Except Failure Log.Level :=
  match Log.Level.read? text with
  | some level => .ok level
  | none =>
    .error (.settings
      ("Invalid log level: " ++ text ++ ". Use trace, debug, info, warn, or error") none)

end BuildGate
