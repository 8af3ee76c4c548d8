/-
# Tables of a TOML document

A document is a table of values and tables. A table is named by its own header,
stands on the way to another header, or is made by a name with dots; a name with
dots leads into no table that was named by a header. An array of tables grows by one table with each of its headers.

Key definitions: `Toml`, `TomlTable.assign`, `TomlTable.openAt`,
`TomlTable.openNextAt`.
-/

namespace ProxyConsole

/-- How a table came to be. -/
inductive TableOrigin where
  /-- By its own header. -/
  | named
  /-- On the way to the header of another table. -/
  | passed
  /-- By a name with dots. -/
  | dotted
  deriving DecidableEq, Repr

/-- A value of a document. Values of the forms that nothing asks for are not told
apart. -/
inductive Toml where
  | string (s : String)
  | integer (n : Int)
  | other
  | table (origin : TableOrigin) (members : List (String × Toml))
  /-- An array of tables. -/
  | tables (all : List (List (String × Toml)))
  deriving Repr

/-- A table with how it came to be. -/
structure TomlTable where
  origin : TableOrigin
  members : List (String × Toml)
  deriving Repr

namespace TomlTable

/-- The value of a name. -/
def get? (t : TomlTable) (name : String) : Option Toml :=
  (t.members.find? fun m => m.1 == name).map (·.2)

/-- The table with a value for a name that has one. -/
def set (t : TomlTable) (name : String) (v : Toml) : TomlTable :=
  { t with members := t.members.map fun m => if m.1 == name then (name, v) else m }

/-- The table with a value for a new name. -/
def add (t : TomlTable) (name : String) (v : Toml) : TomlTable :=
  { t with members := t.members ++ [(name, v)] }

def toToml (t : TomlTable) : Toml :=
  .table t.origin t.members

/-- Changes the table at the end of a path; tables that are missing on the way are
made. By a name with dots no table can be reached that has a header. -/
def descend (byDots : Bool) (f : TomlTable → Option TomlTable) :
    List String → TomlTable → Option TomlTable
  | [], t => f t
  | name :: path, t =>
    match t.get? name with
    | none => do
      let u ← descend byDots f path ⟨if byDots then .dotted else .passed, []⟩
      return t.add name u.toToml
    | some (.table origin members) =>
      if byDots && origin == .named then none
      else do
        let u ← descend byDots f path ⟨origin, members⟩
        return t.set name u.toToml
    | some (.tables all) =>
      match all.getLast? with
      | some members =>
        if byDots then none
        else do
          let u ← descend byDots f path ⟨.named, members⟩
          return t.set name (.tables (all.dropLast ++ [u.members]))
      | none => none
    | some _ => none

/-- Adds a value under a new name. -/
def assignHere (name : String) (v : Toml) (t : TomlTable) : Option TomlTable :=
  match t.get? name with
  | none => some (t.add name v)
  | some _ => none

/-- Adds a value under a name, which may have dots. -/
def assign (path : List String) (v : Toml) (t : TomlTable) : Option TomlTable :=
  match path.getLast? with
  | none => none
  | some name =>
    t.descend true (assignHere name v) path.dropLast

/-- Gives a table its header; it may have been passed on the way to others. -/
def openHere (name : String) (t : TomlTable) : Option TomlTable :=
  match t.get? name with
  | none => some (t.add name (.table .named []))
  | some (.table .passed members) => some (t.set name (.table .named members))
  | some _ => none

/-- The document with a header for the table at a path. -/
def openAt (path : List String) (t : TomlTable) : Option TomlTable :=
  match path.getLast? with
  | none => none
  | some name => t.descend false (openHere name) path.dropLast

/-- Begins the next table of an array. -/
def openNextHere (name : String) (t : TomlTable) : Option TomlTable :=
  match t.get? name with
  | none => some (t.add name (.tables [[]]))
  | some (.tables all) => some (t.set name (.tables (all ++ [[]])))
  | some _ => none

/-- The document with a header for the next table of the array at a path. -/
def openNextAt (path : List String) (t : TomlTable) : Option TomlTable :=
  match path.getLast? with
  | none => none
  | some name => t.descend false (openNextHere name) path.dropLast

end TomlTable
end ProxyConsole
