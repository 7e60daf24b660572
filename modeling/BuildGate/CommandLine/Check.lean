import BuildGate.CommandLine.Arguments
import BuildGate.CommandLine.Emission
import BuildGate.Enforcement.Execute
import BuildGate.Settings.Config

namespace BuildGate.CommandLine

structure ModuleOutcome where
  directory : String
  outcome : Except Failure Report

namespace ModuleOutcome

def isFailed (m : ModuleOutcome) : Bool :=
  match m.outcome with
  | .ok _ => false
  | .error _ => true

end ModuleOutcome

abbrev ModulePass := String → Cache → Pass

/-- Passes over modules, up to the first that fails where one failure is enough. -/
def passOver (pass : ModulePass) (stopsAtFailure : Bool) (cache : Cache) :
    List String → List Notice × List ModuleOutcome
  | [] => ([], [])
  | directory :: rest =>
    let done := pass directory cache
    let outcome : ModuleOutcome := ⟨directory, done.outcome⟩
    if stopsAtFailure && outcome.isFailed then (done.notices, [outcome])
    else
      let (notices, outcomes) := passOver pass stopsAtFailure done.cache rest
      (done.notices ++ notices, outcome :: outcomes)

namespace Gathered

def has (g : Gathered) (s : Switch) : Bool := g.switches.contains s

def apply (g : Gathered) (c : Config) : Config :=
  { c with
    skip := c.skip || g.has .skip
    failFast := c.failFast || g.has .failFast
    ignoreCache := c.ignoreCache || g.has .ignoreCache
    failBuild := c.failBuild && !g.has .noFail
    skipRules := c.skipRules ++ g.skipRules
    properties := c.properties.insertAll g.properties }

/-- The modules to check: those that are named, or else the working directory. -/
def checkedModules (g : Gathered) : List String :=
  if g.modules.isEmpty then [Context.defaultBase] else g.modules

end Gathered

def tagged (directory line : String) : String := "[" ++ directory ++ "] " ++ line

def summary (report : Report) : String :=
  if report.skipped then "skipped"
  else
    toString report.passedCount ++ " passed, " ++ toString report.cachedCount ++ " cached, "
      ++ toString report.failedCount ++ " failed without breaking the build"

def cachedNotes (directory : String) (report : Report) : List String :=
  (report.results.filter fun r => r.outcome == .skippedCached).map fun r =>
    tagged directory
      ("Rule " ++ toString r.index ++ ": " ++ r.implementation
        ++ " was not checked here, an equivalent rule ran in another module; "
        ++ "rerun with --ignore-cache to check it")

def ModuleOutcome.emissions (timestamp : String) (json flagsCached : Bool) (m : ModuleOutcome) :
    List Emission :=
  match m.outcome with
  | .ok report =>
    .output (if json then (report.document timestamp).pretty 0 else tagged m.directory (summary report))
      :: (if flagsCached then (cachedNotes m.directory report).map .message else [])
  | .error failure =>
    [.message (tagged m.directory
      (if failure.isPolicy then "Some rules have failed:\n" ++ failure.message else failure.message))]

structure CheckRun where
  notices : List Notice
  outcomes : List ModuleOutcome

namespace CheckRun

def isFailed (run : CheckRun) : Bool := run.outcomes.any ModuleOutcome.isFailed

def emissions (run : CheckRun) (timestamp : String) (json parallel : Bool) : List Emission :=
  run.outcomes.flatMap fun m => m.emissions timestamp json (parallel && run.isFailed)

def code (run : CheckRun) : Nat := if run.isFailed then 1 else 0

end CheckRun

def enforcer (host : Host) (registry : Registry) (c : Config) : Enforcer :=
  ⟨registry, Evaluator.ofProperties c.properties host, c.options⟩

def moduleContext (host : Host) (c : Config) (directory : String) : Context :=
  (Context.new host directory).withProperties c.properties

def modulePass (host : Host) (registry : Registry) (c : Config) : ModulePass := fun directory cache =>
  (enforcer host registry c).run (moduleContext host c directory) cache c.rules

def checkModules (host : Host) (registry : Registry) (c : Config) (details : Gathered) : CheckRun :=
  let (notices, outcomes) :=
    passOver (modulePass host registry c) (!details.has .parallel) .empty details.checkedModules
  ⟨notices, outcomes⟩

end BuildGate.CommandLine
