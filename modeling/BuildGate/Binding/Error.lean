import BuildGate.Document.Decode

namespace BuildGate

inductive BindError where
  | decode (fault : DecodeError)
  | unknownParameters (names : List String)
  | unresolved (expression reason : String)
  | invalidLevel (text : String)

namespace BindError

def message : BindError → String
  | decode fault => "invalid parameter value: " ++ fault.message
  | unknownParameters names => "unknown parameter(s): " ++ String.intercalate ", " names
  | unresolved expression reason =>
    "cannot resolve placeholder '$\x7b" ++ expression ++ "\x7d': " ++ reason
  | invalidLevel text => "invalid level '" ++ text ++ "', expected ERROR or WARN"

end BindError

def Severity.parse (text : String) : Except BindError Severity :=
  match Severity.read? text with
  | some level => .ok level
  | none => .error (.invalidLevel text)

end BuildGate
