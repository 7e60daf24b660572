import BuildGate.Files.Path

namespace BuildGate

inductive FileEntry where
  | directory
  | regular (content : String)
  | special
  deriving DecidableEq, Repr

structure FileSystem where
  workingDirectory : String
  entry? : String → Option FileEntry

namespace FileSystem

def contains (files : FileSystem) (path : String) : Bool := (files.entry? path).isSome

def content? (files : FileSystem) (path : String) : Option String :=
  match files.entry? path with
  | some (.regular content) => some content
  | _ => none

/-- The places at which a file may be meant by a path: the path itself, and for a relative one the same path as
    seen from every directory above the working directory. -/
def places (files : FileSystem) (path : String) : List String :=
  path :: if Path.isAbsolute path then [] else (Path.above files.workingDirectory).map (Path.join · path)

def find? (files : FileSystem) (path : String) : Option (String × String) :=
  (files.places path).findSome? fun place => (files.content? place).map (place, ·)

end FileSystem

structure FileTree where
  workingDirectory : List String
  entries : List (List String × FileEntry)

namespace FileTree

/-- The longest name and the longest path that can exist, in bytes. -/
def maxName : Nat := 255

def maxPath : Nat := 4095

/-- The root, everything known, and every directory on the way to something known. -/
def entryAt (tree : FileTree) (place : List String) : Option FileEntry :=
  match tree.entries.lookup place with
  | some entry => some entry
  | none =>
    if place = [] ∨ tree.entries.any (fun e => place.isPrefixOf e.1)
        ∨ place.isPrefixOf tree.workingDirectory then
      some .directory
    else none

def follow (tree : FileTree) (place : List String) : List String → Option (List String)
  | [] => some place
  | piece :: rest =>
    if tree.entryAt place = some .directory then
      if piece = "" ∨ piece = "." then follow tree place rest
      else if piece = ".." then follow tree place.dropLast rest
      else if maxName < piece.utf8ByteSize then none
      else if (tree.entryAt (place ++ [piece])).isSome then follow tree (place ++ [piece]) rest
      else none
    else none

def lookup (tree : FileTree) (path : String) : Option FileEntry :=
  if path = "" ∨ maxPath < path.utf8ByteSize ∨ path.toList.contains '\x00' then none
  else
    let start := if Path.isAbsolute path then [] else tree.workingDirectory
    (tree.follow start (Path.pieces path)).bind tree.entryAt

def toFileSystem (tree : FileTree) : FileSystem where
  workingDirectory := "/" ++ String.intercalate "/" tree.workingDirectory
  entry? := tree.lookup

end FileTree

end BuildGate
