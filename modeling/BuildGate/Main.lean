import BuildGate.CommandLine.Program
import BuildGate.Log.Timestamp

namespace BuildGate.Terminal

open CommandLine

def probe (reads : Bool) (path : String) : IO (Option FileEntry) := do
  let here ← IO.currentDir
  match ← (here / path).metadata.toBaseIO with
  | .error _ => return none
  | .ok found =>
    match found.type with
    | .dir => return some .directory
    | .file => if reads then return some (.regular (← IO.FS.readFile path)) else return some (.regular "")
    | _ => return some .special

def probeAll (reads : Bool) (paths : List String) : IO (List (String × FileEntry)) := do
  let mut known := []
  for path in paths do
    if let some entry ← probe reads path then known := (path, entry) :: known
  return known

def readEnvironment : IO (Dict String) := do
  let bytes ← IO.FS.readBinFile "/proc/self/environ"
  let entries := ((String.fromUTF8? bytes).getD "").splitOn "\x00"
  return .ofList (entries.filterMap fun entry =>
    match entry.splitOn "=" with
    | name :: value :: more => some (name, String.intercalate "=" (value :: more))
    | _ => none)

def now : IO (Nat × Nat) := do
  let here ← IO.currentDir
  let moment := (← (here / "/proc/self").metadata).modified
  return (moment.sec.toNat, moment.nsec.toNat)

def writeLog (path day text : String) : IO Unit := do
  let here ← IO.currentDir
  let file := here / (path ++ "." ++ day)
  if let some directory := file.parent then IO.FS.createDirAll directory
  IO.FS.withFile file .append fun handle => handle.putStr text

def surroundings (words : List String) : IO Host := do
  let environment ← readEnvironment
  let workingDirectory := (← IO.currentDir).toString
  let hostOf := fun (known : List (String × FileEntry)) =>
    Host.mk ⟨workingDirectory, fun path => List.lookup path known⟩ environment
  match Request.read words with
  | .error _ => return hostOf []
  | .ok request =>
    let settings ← probeAll true (request.settingsPaths (hostOf []).files)
    let rules ← probeAll false (request.rulePaths (hostOf settings))
    return hostOf (settings ++ rules)

def carryOut (words : List String) : IO UInt32 := do
  let host ← surroundings words
  let (seconds, nanoseconds) ← now
  let timestamp := Log.Timestamp.text seconds nanoseconds
  let ending := run host timestamp words
  for emission in ending.emissions do
    IO.print emission.outputText
    IO.eprint (emission.messageText timestamp)
  if let some path := ending.logFile then
    let text := String.join (ending.emissions.map (Emission.logText timestamp))
    writeLog path (Log.Timestamp.day seconds) text
  return ending.code.toUInt32

end BuildGate.Terminal

def main (words : List String) : IO UInt32 := BuildGate.Terminal.carryOut words
