import BuildGate.Binding.Coerce
import BuildGate.Digest.Sha256
import BuildGate.Rule.Basic
import BuildGate.Text.Blank

namespace BuildGate

inductive Expectation where
  | present
  | absent
  deriving DecidableEq, Repr

namespace Expectation

def isSatisfied (e : Expectation) (files : FileSystem) (path : String) : Bool :=
  match e with
  | present => files.contains path
  | absent => !files.contains path

def header : Expectation → String
  | present => "Some required files are missing:"
  | absent => "Some files should not exist:"

def ruleName : Expectation → String
  | present => "requireFilesExist"
  | absent => "requireFilesDontExist"

end Expectation

structure FileList where
  files : List (Option String)
  allowNulls : Bool
  message : Option String
  deriving DecidableEq, Repr

namespace FileList

def empty : FileList := ⟨[], false, none⟩

def ofNames (names : List String) : FileList := { empty with files := names.map some }

def schema : Schema FileList where
  name := "FileListParams"
  fields := [
    .of "files" false (Decode.list (Decode.optional Decode.text)) fun v l => { l with files := v },
    .of "allow_nulls" false Decode.bool fun v l => { l with allowNulls := v },
    .of "message" false (Decode.optional Decode.text) fun v l => { l with message := v }]
  closed := true
  initial := empty
  countsItems := true

def entry (file : Option String) : Option String :=
  (file.map Text.trim).filter (· ≠ "")

def entries (l : FileList) : List (Option String) := l.files.map entry

def names (l : FileList) : List String := l.entries.filterMap id

def violationText (l : FileList) (e : Expectation) (paths : List String) : String :=
  l.message.getD e.header ++ String.join (paths.map ("\n" ++ ·))

/-- The walk over the entries, with the paths that were found to offend so far. A file that is not given is
    skipped or ends the walk, whatever was found in front of it. -/
def walk (l : FileList) (e : Expectation) (ctx : Context) : List (Option String) → List String → Verdict
  | [], [] => .passed
  | [], offending => .violation (l.violationText e offending)
  | none :: rest, offending =>
    if l.allowNulls then walk l e ctx rest offending
    else .fatal "A null filename was given and allow_nulls is false."
  | some name :: rest, offending =>
    let path := ctx.resolve name
    if e.isSatisfied ctx.host.files path then walk l e ctx rest offending
    else walk l e ctx rest (offending ++ [path])

def verdict (l : FileList) (e : Expectation) (ctx : Context) : Verdict :=
  if !l.allowNulls && l.files.isEmpty then
    .fatal "The file list is empty and Null files are disabled."
  else l.walk e ctx l.entries []

def notices (l : FileList) (log : Option RuleLog) : List Notice :=
  match log with
  | some log =>
    if l.allowNulls then
      (l.entries.filter Option.isNone).map fun _ =>
        log.debug "Skipping an empty file name, allow_nulls is set"
    else []
  | none => []

/-- What the cache id of a list of paths is the digest of: each path, ended by a zero byte. -/
def digestInput (paths : List String) : List UInt8 :=
  paths.flatMap fun path => path.toUTF8.data.toList ++ [0]

def cacheId (l : FileList) : Option String :=
  if l.entries.contains none || l.names.isEmpty || !l.names.all Path.isAbsolute then none
  else some (Sha256.digest (digestInput l.names))

def description (l : FileList) (e : Expectation) : String :=
  e.ruleName ++ " [" ++ String.intercalate ", " (l.entries.map (·.getD "<null>")) ++ "]"

def rule (l : FileList) (e : Expectation) (log : Option RuleLog) : Rule :=
  { (Rule.plain fun ctx => ⟨l.notices log, l.verdict e ctx⟩).withCacheId l.cacheId with
    description := some (l.description e) }

end FileList

end BuildGate
