namespace BuildGate

structure Options where
  skip : Bool
  failBuild : Bool
  failFast : Bool
  ignoreCache : Bool
  failIfNoRules : Bool
  /-- Names of rules that are left out. -/
  skipRules : List String
  deriving DecidableEq, Repr

def Options.default : Options where
  skip := false
  failBuild := true
  failFast := false
  ignoreCache := false
  failIfNoRules := true
  skipRules := []

end BuildGate
