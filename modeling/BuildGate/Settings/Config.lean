import BuildGate.Enforcement.Declaration
import BuildGate.Enforcement.Options
import BuildGate.Settings.Toggle

namespace BuildGate

structure Logging where
  level : String
  jsonFormat : Bool
  fileOutput : Option String
  deriving DecidableEq, Repr

namespace Logging

def default : Logging := ⟨"info", false, none⟩

/-- The file that the log is written to, if any; a file without a name gets one. -/
def file (l : Logging) : Option String :=
  l.fileOutput.map fun path => if path.isEmpty then "enforcer.log" else path

def schema (countsItems : Bool) : Schema Logging where
  name := "LoggingConfig"
  fields := [
    .of "level" false Decode.text fun v l => { l with level := v },
    .of "json_format" false Decode.bool fun v l => { l with jsonFormat := v },
    .of "file_output" false (Decode.optional Decode.pathText) fun v l => { l with fileOutput := v }]
  closed := false
  initial := default
  countsItems := countsItems

def toValue (l : Logging) : Value :=
  .ofDict (.ofList [("level", .text l.level), ("json_format", .bool l.jsonFormat),
    ("file_output", (l.fileOutput.map Value.text).getD .null)])

end Logging

structure Config where
  skip : Bool
  failBuild : Bool
  failFast : Bool
  ignoreCache : Bool
  failIfNoRules : Bool
  skipRules : List String
  properties : Dict String
  rules : List Declaration
  logging : Logging

namespace Config

def default : Config where
  skip := Options.default.skip
  failBuild := Options.default.failBuild
  failFast := Options.default.failFast
  ignoreCache := Options.default.ignoreCache
  failIfNoRules := Options.default.failIfNoRules
  skipRules := Options.default.skipRules
  properties := ∅
  rules := []
  logging := .default

def toggle (c : Config) : Toggle → Bool
  | .skip => c.skip
  | .failBuild => c.failBuild
  | .failFast => c.failFast
  | .ignoreCache => c.ignoreCache
  | .failIfNoRules => c.failIfNoRules

def setToggle (t : Toggle) (on : Bool) (c : Config) : Config :=
  match t with
  | .skip => { c with skip := on }
  | .failBuild => { c with failBuild := on }
  | .failFast => { c with failFast := on }
  | .ignoreCache => { c with ignoreCache := on }
  | .failIfNoRules => { c with failIfNoRules := on }

def schema (countsItems : Bool) : Schema Config where
  name := "EnforcerConfig"
  fields :=
    (Toggle.all.map fun t => .of t.key false Decode.bool (setToggle t)) ++ [
      .of "skip_rules" false (Decode.list Decode.text) fun v c => { c with skipRules := v },
      .of "properties" false (Decode.dict Decode.text) fun v c => { c with properties := v },
      .of "rules" false (Decode.list Declaration.decode) fun v c => { c with rules := v },
      .of "logging" false (Logging.schema countsItems).decode fun v c => { c with logging := v }]
  closed := false
  initial := default
  countsItems := countsItems

def decode : Value → Decoded Config := (schema true).decode

def toValue (c : Config) : Value :=
  .ofDict (.ofList (
    (Toggle.all.map fun t => (t.key, .bool (c.toggle t))) ++ [
      ("skip_rules", .list (c.skipRules.map .text)),
      ("properties", .ofDict (c.properties.mapValues .text)),
      ("rules", .list (c.rules.map Declaration.toValue)),
      ("logging", c.logging.toValue)]))

def options (c : Config) : Options where
  skip := c.skip
  failBuild := c.failBuild
  failFast := c.failFast
  ignoreCache := c.ignoreCache
  failIfNoRules := c.failIfNoRules
  skipRules := c.skipRules

end Config

end BuildGate
