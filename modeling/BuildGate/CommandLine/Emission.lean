import BuildGate.Document.Printer
import BuildGate.Log.Notice

namespace BuildGate.CommandLine

inductive Emission where
  | output (line : String)
  | message (line : String)
  | logged (asDocument : Bool) (record : Log.Record)

structure Ending where
  emissions : List Emission
  code : Nat
  logFile : Option String

namespace Emission

def recordDocument (timestamp : String) (r : Log.Record) : Value :=
  .record [("timestamp", .text timestamp), ("level", .text r.level.name),
    ("fields", .record (("message", .text r.message) :: r.fields.map fun f => (f.1, .text f.2))),
    ("target", .text r.origin)]

def recordLine (timestamp : String) (r : Log.Record) : String :=
  timestamp ++ " " ++ r.level.name ++ " " ++ r.message
    ++ String.join (r.fields.map fun f => " " ++ f.1 ++ "=" ++ f.2)

def outputText : Emission → String
  | output line => line ++ "\n"
  | message _ | logged _ _ => ""

def messageText (timestamp : String) : Emission → String
  | output _ => ""
  | message line => line ++ "\n"
  | logged true r => (recordDocument timestamp r).compact ++ "\n"
  | logged false r => recordLine timestamp r ++ "\n"

def logText (timestamp : String) (e : Emission) : String :=
  match e with
  | output _ | message _ => ""
  | logged _ _ => e.messageText timestamp

end Emission

end BuildGate.CommandLine
