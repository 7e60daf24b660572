namespace BuildGate.Path

def isAbsolute (path : String) : Bool := path.toList.head? == some '/'

/-- The path of `child` as seen from `base`; an absolute path stays what it is. -/
def join (base child : String) : String :=
  if isAbsolute child || base.isEmpty then child
  else if base.toList.getLast? == some '/' then base ++ child
  else base ++ "/" ++ child

def pieces (path : String) : List String := path.splitOn "/"

def steps (path : String) : List String := (pieces path).filter fun p => p ≠ "" && p ≠ "."

def commonSteps : List String → List String → Nat
  | a :: as, b :: bs => if a = b then commonSteps as bs + 1 else 0
  | _, _ => 0

def relativeTo (directory path : String) : String :=
  let up := steps directory
  let down := steps (join directory path)
  let shared := commonSteps up down
  String.intercalate "/" (List.replicate (up.length - shared) ".." ++ down.drop shared)

/-- A path as it is shown to someone in an absolute directory: as seen from there if that is shorter, the root
    counted as a piece. -/
def shownIn (directory path : String) : String :=
  let seen := relativeTo directory path
  let whole := join directory path
  if (steps seen).length < (steps whole).length + 1 then seen else whole

def above (directory : String) : List String :=
  let down := steps directory
  (List.range down.length).reverse.map fun n => "/" ++ String.intercalate "/" (down.take n)

end BuildGate.Path
