import BuildGate.Proofs.Enforcement.Preparation
import BuildGate.Rule.Builtin

namespace BuildGate

section Acting

/- Rules that do something else when they run, and are alike in everything else. -/
variable (act : (Context → Execution) → Context → Execution)

def Rule.acting (rule : Rule) : Rule := { rule with run := act rule.run }

def Blueprint.acting (blueprint : Blueprint) : Blueprint where
  unconfigured log := (blueprint.unconfigured log).acting act
  configure log params :=
    ((blueprint.configure log params).1, (blueprint.configure log params).2.map (Rule.acting act))

def Registration.acting (registration : Registration) : Registration :=
  { registration with blueprint := registration.blueprint.acting act }

def Registry.acting (registry : Registry) : Registry :=
  ⟨registry.components.mapValues (Registration.acting act), registry.types.mapValues (Registration.acting act)⟩

def Descriptor.acting (d : Descriptor) : Descriptor := { d with rule := d.rule.acting act }

def Enforcer.acting (enforcer : Enforcer) : Enforcer := { enforcer with registry := enforcer.registry.acting act }

namespace Enforcer

variable (enforcer : Enforcer)

end Enforcer

end Acting

namespace Enforcer

theorem run_of_ok {enforcer : Enforcer} {declarations : List Declaration} {descriptors : List Descriptor}
    (active : enforcer.options.skip = false) (ready : (enforcer.prepare declarations).2 = .ok descriptors)
    (ctx : Context) (cache : Cache) :
    enforcer.run ctx cache declarations =
      (execute enforcer.options ctx cache descriptors).after (enforcer.prepare declarations).1 := by
  rw [run, active]
  generalize enforcer.prepare declarations = prepared at ready ⊢
  obtain ⟨notices, _⟩ := prepared
  cases ready
  rfl

end Enforcer

end BuildGate
