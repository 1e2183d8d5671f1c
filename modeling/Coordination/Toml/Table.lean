import Coordination.Toml.Value

/-!
# Building tables

A document is built up entry by entry. A table remembers how it came about, because that decides
what may still be added to it: a table that was only mentioned on the way to another one may be
opened later, and a table made by dotted keys may be extended by dotted keys alone. Nothing may
be defined twice. The place of an entry is that of its value or of its header, or else that of
the key by which it was mentioned.
-/

namespace Coordination.Toml

/-- What a key of a table under construction stands for. -/
inductive Node where
  | value (v : Value)
  | table (implicit dotted : Bool) (entries : List (String × Place × Node))
  /-- An array of tables, of which the last is under construction. -/
  | tables (elements : List (Place × List (String × Place × Node)))

/-- A table under construction. -/
structure Table where
  /-- Whether the table has not been defined itself, only mentioned. -/
  implicit : Bool := false
  /-- Whether the table was made by a dotted key. -/
  dotted : Bool := false
  entries : List (String × Place × Node) := []

namespace Table

def node (t : Table) : Node := .table t.implicit t.dotted t.entries

def get? (t : Table) (key : String) : Option (Place × Node) := t.entries.lookup key

/-- Puts a node in the place of an earlier one, or at the end. -/
def put (t : Table) (key : String) (place : Place) (n : Node) : Table :=
  if (t.get? key).isSome then
    { t with entries := t.entries.map fun (k, old) => (k, if k == key then (place, n) else old) }
  else { t with entries := t.entries ++ [(key, place, n)] }

/-- Changes the last table of an array of tables. -/
def changeLast (f : Table → Option Table)
    (elements : List (Place × List (String × Place × Node))) : Option Node :=
  match elements.getLast? with
  | none => none
  | some (place, entries) =>
    (f { entries }).map fun t => .tables (elements.dropLast ++ [(place, t.entries)])

/-- Changes the table at the end of a path. Tables on the way are made as needed; an array of
tables stands for its last table. By dotted keys only tables that are not defined themselves
can be entered. -/
def changeAt (dotted : Bool) (f : Table → Option Table) : List KeyPart → Table → Option Table
  | [], t => f t
  | part :: path, t =>
    match t.get? part.name with
    | none =>
      (changeAt dotted f path { implicit := true, dotted }).map fun c =>
        t.put part.name part.place c.node
    | some (_, .value _) => none
    | some (place, .table implicit wasDotted entries) =>
      if dotted && !implicit then none
      else
        (changeAt dotted f path { implicit, dotted := wasDotted, entries }).map fun c =>
          t.put part.name place c.node
    | some (place, .tables elements) =>
      (changeLast (changeAt dotted f path) elements).map (t.put part.name place)

/-- Adds a value under a dotted key, whose last part is `key`. -/
def addValue (path : List KeyPart) (key : String) (place : Place) (v : Value) (t : Table) :
    Option Table :=
  t |> changeAt true (fun t =>
    if t.dotted == path.isEmpty then none
    else if (t.get? key).isSome then none
    else some (t.put key place (.value v))) path

/-- Opens a table by its header at `place`. It must be new, or only have been mentioned by
headers. -/
def openTable (path : List KeyPart) (key : String) (place : Place) (t : Table) : Option Table :=
  t |> changeAt false (fun t =>
    match t.get? key with
    | none => some (t.put key place (.table false false []))
    | some (_, .table true false entries) => some (t.put key place (.table false false entries))
    | some _ => none) path

/-- Opens one more table of an array of tables, by its header at `place`. -/
def openElement (path : List KeyPart) (key : String) (place : Place) (t : Table) : Option Table :=
  t |> changeAt false (fun t =>
    match t.get? key with
    | none => some (t.put key place (.tables [(place, [])]))
    | some (first, .tables elements) => some (t.put key first (.tables (elements ++ [(place, [])])))
    | some _ => none) path

end Table

mutual

/-- The finished value of a node. -/
def Node.toValue : Node → Value
  | .value v => v
  | .table _ _ entries => .table (entryValues entries)
  | .tables elements => .array (elementValues elements)

def entryValues : List (String × Place × Node) → List (String × Place × Value)
  | [] => []
  | (key, place, n) :: rest => (key, place, n.toValue) :: entryValues rest

def elementValues : List (Place × List (String × Place × Node)) → List (Place × Value)
  | [] => []
  | (place, entries) :: rest => (place, .table (entryValues entries)) :: elementValues rest

end

def Table.toValue (t : Table) : Value := .table (entryValues t.entries)

end Coordination.Toml
