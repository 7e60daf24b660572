import BuildGate.Rule.Context
import BuildGate.Settings.Config
import BuildGate.Settings.EnvironmentValue
import BuildGate.Toml.Reader

namespace BuildGate

structure Loader where
  configPath : Option String
  searchDir : Option String
  variableStem : String

namespace Loader

def new : Loader := ⟨none, none, "ENFORCER"⟩

def fileName : String := "enforcer.toml"

def directoryName : String := ".enforcer"

def candidates (loader : Loader) (files : FileSystem) : List String :=
  let base := loader.searchDir.getD files.workingDirectory
  [Path.join base fileName, Path.join (Path.join base directoryName) fileName]

/-- The settings file in use, if any; a file that was asked for and is missing is an error. -/
def chooseFile (loader : Loader) (files : FileSystem) : Except String (Option String) :=
  match loader.configPath with
  | some path => if files.contains path then .ok (some path) else .error path
  | none => .ok ((loader.candidates files).find? files.contains)

def variableStart (loader : Loader) : String := loader.variableStem ++ "_"

def lowered (name : String) : String := String.ofList (name.toList.map Char.toLower)

def raised (name : String) : String := String.ofList (name.toList.map Char.toUpper)

/-- The variable sets the switch; case does not matter. -/
def sets (loader : Loader) (t : Toggle) (variableName : String) : Bool :=
  lowered (Text.trim variableName) == lowered (loader.variableStart ++ t.key)

/-- What the environment says of a switch; of several variables the last one counts. -/
def override? (loader : Loader) (environment : Dict String) (t : Toggle) :
    Option EnvironmentValue :=
  ((environment.entries.filter fun entry => loader.sets t entry.1).getLast?).map fun entry =>
    .read entry.2

def overrides (loader : Loader) (environment : Dict String) : List (Toggle × EnvironmentValue) :=
  Toggle.all.filterMap fun t => (loader.override? environment t).map (t, ·)

def describe : Found → String
  | .null => "unit"
  | .boolean flag => "bool " ++ (if flag then "true" else "false")
  | .integer number => "signed int `" ++ toString number ++ "`"
  | .float number => "float `" ++ Decimal.Layout.bare.render number ++ "`"
  | .text content => "string " ++ Text.Quoted.encode content
  | .sequence => "sequence"
  | .map => "map"

def causeText (describe : Found → String) : DecodeCause → String
  | .invalidType found expected => "invalid type: found " ++ describe found ++ ", expected " ++ expected
  | .invalidValue found expected =>
    "invalid value: found " ++ describe found ++ ", expected " ++ expected
  | cause => cause.message

def overrideFault (loader : Loader) (t : Toggle) (v : EnvironmentValue) (e : DecodeError) : String :=
  causeText (fun _ => v.describe) e.cause ++ " for key \"" ++ raised t.key ++ "\" in `"
    ++ raised loader.variableStart ++ "` environment variable(s)"

def fileFault (shownPath : String) (e : DecodeError) : String :=
  causeText describe e.cause ++ " for key "
    ++ Text.Quoted.encode (String.intercalate "." ("default" :: e.path)) ++ " in " ++ shownPath
    ++ " TOML file"

/-- The text of a fault in the merged settings, which lies where the faulty setting comes from. -/
def faultText (loader : Loader) (overrides : List (Toggle × EnvironmentValue)) (shownPath : String)
    (e : DecodeError) : String :=
  match overrides.find? fun entry => e.path.head? = some entry.1.key with
  | some (t, v) => loader.overrideFault t v e
  | none => fileFault shownPath e

def merge (fields : Dict Value) (overrides : List (Toggle × EnvironmentValue)) : Dict Value :=
  fields.insertAll (overrides.map fun entry => (entry.1.key, entry.2.toValue))

/-- The settings in the content of a file; there are none where no regular file was found. -/
def fileFields : Option String → Except String (Dict Value)
  | some content => (Toml.read content).mapError (·.message)
  | none => .ok ∅

def extract (loader : Loader) (host : Host) (file : Option String) : Except String Config :=
  let found := file.bind host.files.find?
  match fileFields (found.map (·.2)) with
  | .error fault => .error fault
  | .ok fields =>
    let overrides := loader.overrides host.environment
    let shownPath := Path.shownIn host.files.workingDirectory ((found.map (·.1)).getD "")
    ((Config.schema false).decode (.ofDict (merge fields overrides))).mapError
      (loader.faultText overrides shownPath)

def firstBlankRule (c : Config) : Option Nat :=
  c.rules.findIdx? fun d => Text.isBlankText d.name

def validate (c : Config) : Except Failure Config :=
  match firstBlankRule c with
  | some index => .error (.settings ("Rule " ++ toString index ++ " has an empty name") none)
  | none => (Log.Level.parse c.logging.level).map fun _ => c

def load (loader : Loader) (host : Host) : List Notice × Except Failure Config :=
  match loader.chooseFile host.files with
  | .error path =>
    ([.settingsMissing path],
      .error (.settings ("Configuration file not found: " ++ path) none))
  | .ok file =>
    ((file.map Notice.settingsLoaded).toList,
      match loader.extract host file with
      | .error fault => .error (.ofFault "Failed to extract configuration" fault)
      | .ok c => validate c)

end Loader

end BuildGate
