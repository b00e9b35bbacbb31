import AnnotationBridge.Toml.Value

/-!
# TOML tables under construction

A file defines tables by headers and by dotted keys, and each table only once. A `Table` remembers
how it came to be, which decides how it may still be extended.

* `Table.define`: a key with a value below a table.
* `Table.openTable`, `Table.openArray`: what `[a.b]` and `[[a.b]]` do.
* `Table.toValue`: the finished table.
-/

namespace AnnotationBridge.Toml

/-- How a table came to be. -/
inductive Origin where
  /-- By its own header, or as an inline table. -/
  | header
  /-- On the way to a table with a header. -/
  | path
  /-- On the way to a dotted key. -/
  | dotted
  deriving DecidableEq, Repr

mutual

/-- A table and the way it came to be. -/
inductive Table where
  | mk (origin : Origin) (entries : List (String × Entry))

/-- What a key of a table stands for. -/
inductive Entry where
  | value (value : Value)
  | table (table : Table)
  | tables (tables : List Table)

end

namespace Table

/-- The way a table came to be. -/
def origin : Table → Origin
  | mk origin _ => origin

/-- The keys of a table with what they stand for. -/
def entries : Table → List (String × Entry)
  | mk _ entries => entries

/-- A table without keys. -/
def empty (origin : Origin) : Table :=
  mk origin []

/-- What a key stands for. -/
def find? (t : Table) (key : String) : Option Entry :=
  t.entries.lookup key

/-- Puts an entry in the place of the one with its key, or at the end. -/
def putEntry (key : String) (entry : Entry) : List (String × Entry) → List (String × Entry)
  | [] => [(key, entry)]
  | (k, e) :: rest => if k = key then (key, entry) :: rest else (k, e) :: putEntry key entry rest

/-- The table in which a key stands for an entry. -/
def put (t : Table) (key : String) (entry : Entry) : Table :=
  mk t.origin (putEntry key entry t.entries)

/-- Changes the table at the end of a path. Tables that are missing on the way come to be by `way`;
dotted keys do not lead into tables with a header. -/
def descend (way : Origin) (change : Table → Option Table) : List String → Table → Option Table
  | [], t => change t
  | key :: path, t =>
    match t.find? key with
    | none => (descend way change path (empty way)).map fun s => t.put key (.table s)
    | some (.table s) =>
      if way = .dotted ∧ s.origin = .header then none
      else (descend way change path s).map fun s => t.put key (.table s)
    | some (.tables ts) =>
      match ts.getLast? with
      | none => none
      | some s =>
        (descend way change path s).map fun s => t.put key (.tables (ts.dropLast ++ [s]))
    | some (.value _) => none

/-- Gives a value to a dotted key below a table. -/
def define (path : List String) (key : String) (value : Value) (t : Table) : Option Table :=
  descend .dotted (fun s =>
    if (s.origin = .dotted) = (path = []) ∨ (s.find? key).isSome then none
    else some (s.put key (.value value))) path t

/-- Defines the table of a header. -/
def openTable (path : List String) (key : String) (t : Table) : Option Table :=
  descend .path (fun s =>
    match s.find? key with
    | none => some (s.put key (.table (empty .header)))
    | some (.table (mk .path entries)) => some (s.put key (.table (mk .header entries)))
    | _ => none) path t

/-- Adds a table to the array of a header. -/
def openArray (path : List String) (key : String) (t : Table) : Option Table :=
  descend .path (fun s =>
    match s.find? key with
    | none => some (s.put key (.tables [empty .header]))
    | some (.tables ts) => some (s.put key (.tables (ts ++ [empty .header])))
    | _ => none) path t

mutual

/-- The value of a finished table. -/
def toValue : Table → Value
  | mk _ entries => .table (entriesToValues entries)

/-- The values of the entries of a table. -/
def entriesToValues : List (String × Entry) → List (String × Value)
  | [] => []
  | (key, entry) :: rest => (key, entryToValue entry) :: entriesToValues rest

/-- The value of an entry. -/
def entryToValue : Entry → Value
  | .value value => value
  | .table table => toValue table
  | .tables tables => .array (tablesToValues tables)

/-- The values of several tables. -/
def tablesToValues : List Table → List Value
  | [] => []
  | table :: rest => toValue table :: tablesToValues rest

end

end Table

end AnnotationBridge.Toml
