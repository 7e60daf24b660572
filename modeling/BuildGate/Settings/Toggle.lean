namespace BuildGate

inductive Toggle where
  | skip
  | failBuild
  | failFast
  | ignoreCache
  | failIfNoRules
  deriving DecidableEq, Repr

namespace Toggle

def key : Toggle → String
  | skip => "skip"
  | failBuild => "fail_build"
  | failFast => "fail_fast"
  | ignoreCache => "ignore_cache"
  | failIfNoRules => "fail_if_no_rules"

def all : List Toggle := [skip, failBuild, failFast, ignoreCache, failIfNoRules]

end Toggle

end BuildGate
