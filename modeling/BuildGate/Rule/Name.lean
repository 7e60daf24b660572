import BuildGate.Text.Blank
import BuildGate.Text.Case

namespace BuildGate.RuleName

/-- The trimmed name with its first character in lower case. -/
def canonical (name : String) : String :=
  match Text.trimChars name.toList with
  | [] => ""
  | first :: rest => String.ofList (Text.lowerChar first ++ rest)

def defaultSpace : String := "enforcer_rules"

def hasSeparator : List Char → Bool
  | ':' :: ':' :: _ => true
  | _ :: rest => hasSeparator rest
  | [] => false

/-- The trimmed name with its first character in upper case, in the default space; a name that is a
    type reference already is taken as it is. -/
def conventional (name : String) : String :=
  let trimmed := Text.trimChars name.toList
  if hasSeparator trimmed then String.ofList trimmed
  else
    let typeName :=
      match trimmed with
      | [] => []
      | first :: rest => Text.upperChar first ++ rest
    defaultSpace ++ "::" ++ String.ofList typeName

end BuildGate.RuleName
