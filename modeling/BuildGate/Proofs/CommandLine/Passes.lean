import BuildGate.CommandLine.Check
import BuildGate.Proofs.Parallel.Worker

namespace BuildGate

namespace Enforcer

def worker (enforcer : Enforcer) (declarations : List Declaration) : Worker :=
  if enforcer.options.skip then ⟨[.enforcementSkipped], .ended (.ok .ofSkipped)⟩
  else
    match enforcer.prepare declarations with
    | (notices, .error e) => ⟨notices, .ended (.error e)⟩
    | (notices, .ok descriptors) =>
      let begun := Worker.start enforcer.options descriptors
      ⟨notices ++ begun.notices, begun.stage⟩

end Enforcer

namespace CommandLine

variable {ι : Type} [DecidableEq ι]

end CommandLine

end BuildGate
