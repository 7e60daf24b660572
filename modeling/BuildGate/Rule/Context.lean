import BuildGate.Dict
import BuildGate.Files.System

namespace BuildGate

structure Host where
  files : FileSystem
  environment : Dict String

structure Context where
  baseDir : String
  properties : Dict String
  host : Host

namespace Context

def defaultBase : String := "."

def new (host : Host) (baseDir : String) : Context := ⟨baseDir, ∅, host⟩

def withProperty (ctx : Context) (key value : String) : Context :=
  { ctx with properties := ctx.properties.insert key value }

def withProperties (ctx : Context) (more : Dict String) : Context :=
  { ctx with properties := ctx.properties.insertAll more.entries }

def property? (ctx : Context) (key : String) : Option String := ctx.properties.get? key

def resolve (ctx : Context) (path : String) : String := Path.join ctx.baseDir path

end Context

end BuildGate
