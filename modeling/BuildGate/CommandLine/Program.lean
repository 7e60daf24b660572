import BuildGate.CommandLine.Check
import BuildGate.Log.Filter
import BuildGate.Rule.Builtin
import BuildGate.Settings.Loader

namespace BuildGate.CommandLine

def version : String := "0.3.0"

def about : String := "Build Rule Enforcer - run configured build rules and fail on violations"

def helpText : String :=
  String.intercalate "\n" [about, "",
    "Usage: enforcer [OPTIONS] <COMMAND>", "",
    "Commands:",
    "  check  Run the configured rules",
    "  list   List registered rules",
    "  help   Print this message", "",
    "Options:",
    "  -c, --config <CONFIG>           Path to configuration file",
    "  -h, --help                      Print help",
    "  -V, --version                   Print version", "",
    "Options of check:",
    "  -m, --module <DIR>              Module directory to check; repeat for several modules",
    "      --parallel                  Check modules side by side",
    "      --fail-fast                 Stop at the first ERROR-level failure",
    "      --no-fail                   Only log ERROR-level failures",
    "      --ignore-cache              Execute equivalent rules again even if they already ran",
    "      --skip                      Do nothing",
    "      --skip-rule <NAME>          Leave a rule out of the run; repeatable",
    "  -D, --property <KEY=VALUE>      Build property, overriding the configuration file",
    "      --json                      Print reports as JSON"]

def UsageError.text (e : UsageError) : String :=
  match e.message? with
  | some message =>
    withoutSequences
      ("error: " ++ message ++ "\n\nFor more information, try '" ++ literalWord "--help" ++ "'.")
  | none => helpText

def Stop.ending : Stop → Ending
  | help => ⟨[.output helpText], 0, none⟩
  | version => ⟨[.output ("enforcer " ++ CommandLine.version)], 0, none⟩
  | error e => ⟨[.message e.text], 2, none⟩

def failureLine (failure : Failure) : String :=
  "Error: Failed to load configuration: " ++ failure.message
    ++ (match failure with
        | .settings _ (some source) => ": " ++ source
        | _ => "")

def padTo (width : Nat) (text : String) : String :=
  text ++ String.ofList (List.replicate (width - text.length) ' ')

def listing (registry : Registry) : List Emission :=
  registry.list.map fun (name, implementation, description) =>
    .output (padTo 28 name ++ " " ++ padTo 44 implementation ++ " " ++ description)

def filterVariable : String := "ENFORCER_LOG"

/-- The filter of the log: the one in the environment, or else the configured level. -/
def logFilter (host : Host) (logging : Logging) : Log.Filter :=
  match (host.environment.get? filterVariable).bind Log.Filter.read? with
  | some filter => filter
  | none => .ofText logging.level

def logged (filter : Log.Filter) (asDocument : Bool) (notices : List Notice) : List Emission :=
  ((notices.map Notice.record).filter filter.admits).map (.logged asDocument)

def configuredLevel (logging : Logging) : Log.Level :=
  (Log.Level.read? logging.level).getD .info

def CheckRun.ending (run : CheckRun) (host : Host) (timestamp : String) (c : Config) (details : Gathered) :
    Ending :=
  let log := logged (logFilter host c.logging) c.logging.jsonFormat
  let parallel := details.has .parallel
  let before := [.loggingReady (configuredLevel c.logging)] ++ Registry.discover.1
    ++ [.starting details.checkedModules.length parallel]
  ⟨log (before ++ run.notices) ++ run.emissions timestamp (details.has .json) parallel
    ++ (if run.isFailed then [] else log [.finished]), run.code, c.logging.file⟩

def check (host : Host) (timestamp : String) (loaded : Config) (details : Gathered) : Ending :=
  let c := details.apply loaded
  (checkModules host Registry.discover.2 c details).ending host timestamp c details

def Request.loader (request : Request) : Loader := { Loader.new with configPath := request.config }

def Request.settingsPaths (request : Request) (files : FileSystem) : List String :=
  (match request.config with
    | some path => [path]
    | none => request.loader.candidates files).flatMap files.places

/-- The files that the rules may look for: every text among the parameters may name one. -/
def Request.rulePaths (request : Request) (host : Host) : List String :=
  match (request.loader.load host).2 with
  | .error _ => []
  | .ok loaded =>
    let c := request.details.apply loaded
    let evaluate := Evaluator.ofProperties c.properties host
    let texts := c.rules.flatMap fun d =>
      match Binder.parameters evaluate d.config with
      | .error _ => []
      | .ok params => params.entries.flatMap fun entry => entry.2.texts
    request.details.checkedModules.flatMap fun directory =>
      texts.map fun text => Path.join directory (Text.trim text)

def Request.carryOut (request : Request) (host : Host) (timestamp : String) : Ending :=
  match (request.loader.load host).2 with
  | .error failure => ⟨[.message (failureLine failure)], 1, none⟩
  | .ok loaded =>
    match request.command with
    | .list => ⟨listing Registry.discover.2, 0, none⟩
    | .check => check host timestamp loaded request.details

def run (host : Host) (timestamp : String) (words : List String) : Ending :=
  match Request.read words with
  | .error stop => stop.ending
  | .ok request => request.carryOut host timestamp

end BuildGate.CommandLine
