import BuildGate.Document.Value

namespace BuildGate.Toml

inductive Origin where
  | passed
  | dotted
  | opened
  deriving DecidableEq, Repr

inductive Node where
  | value (v : Value)
  | table (origin : Origin) (fields : List (String × Node))
  /-- A list of tables with headers of their own; the latest one stands apart. -/
  | tables (earlier : List (List (String × Node))) (latest : List (String × Node))

structure Table where
  origin : Origin
  fields : List (String × Node)

mutual

def Node.toValue : Node → Value
  | .value v => v
  | .table _ fields => .ofDict (.ofList (fieldValues fields))
  | .tables earlier latest =>
    .list (tableValues earlier ++ [.ofDict (.ofList (fieldValues latest))])

def fieldValues : List (String × Node) → List (String × Value)
  | [] => []
  | (key, node) :: fields => (key, node.toValue) :: fieldValues fields

def tableValues : List (List (String × Node)) → List Value
  | [] => []
  | fields :: rest => .ofDict (.ofList (fieldValues fields)) :: tableValues rest

end

namespace Table

def new (origin : Origin) : Table := ⟨origin, []⟩

def get? (t : Table) (key : String) : Option Node := t.fields.lookup key

def putField (key : String) (node : Node) : List (String × Node) → List (String × Node)
  | [] => [(key, node)]
  | field :: fields =>
    if field.1 = key then (key, node) :: fields else field :: putField key node fields

def put (t : Table) (key : String) (node : Node) : Table :=
  { t with fields := putField key node t.fields }

def toDict (t : Table) : Dict Value := .ofList (fieldValues t.fields)

/-- Changes the table at the end of a path. Tables on the way that are missing come into being; the way
    leads into the latest of several tables, and a dotted key does not go through an opened one. -/
def change (way : Origin) (f : Table → Option Table) : List String → Table → Option Table
  | [], t => f t
  | key :: path, t =>
    match t.get? key with
    | none =>
      (change way f path (new way)).map fun inner => t.put key (.table inner.origin inner.fields)
    | some (.table origin fields) =>
      if way = .dotted ∧ origin = .opened then none
      else
        (change way f path ⟨origin, fields⟩).map fun inner =>
          t.put key (.table inner.origin inner.fields)
    | some (.tables earlier latest) =>
      (change way f path ⟨.opened, latest⟩).map fun inner => t.put key (.tables earlier inner.fields)
    | some (.value _) => none

/-- Gives a key its value, once. Only a table of dotted keys takes a value by a dotted key, and such a
    table takes no other. -/
def assign (t : Table) (path : List String) (key : String) (v : Value) : Option Table :=
  t.change .dotted
    (fun inner =>
      if (inner.origin == .dotted) == path.isEmpty || (inner.get? key).isSome then none
      else some (inner.put key (.value v)))
    path

def openTable (t : Table) (path : List String) (key : String) : Option Table :=
  t.change .passed
    (fun inner =>
      match inner.get? key with
      | none => some (inner.put key (.table .opened []))
      | some (.table .passed fields) => some (inner.put key (.table .opened fields))
      | some _ => none)
    path

def openItem (t : Table) (path : List String) (key : String) : Option Table :=
  t.change .passed
    (fun inner =>
      match inner.get? key with
      | none => some (inner.put key (.tables [] []))
      | some (.tables earlier latest) => some (inner.put key (.tables (earlier ++ [latest]) []))
      | some _ => none)
    path

end Table

end BuildGate.Toml
