/-
# TOML documents

A document is a list of lines: headers of tables and of arrays of tables, and
values under names. A value is a string, a number, a truth value, a date, an
array, or a table between braces; arrays and tables may go over lines, also around
their equals signs, and hold a comma behind the last item.

Key definitions: `TomlLine`, `TomlDocument.value`, `TomlDocument.lines`,
`TomlDocument.read`.
-/
import ProxyConsole.Toml.Scalar

namespace ProxyConsole

/-- A line of a document. -/
inductive TomlLine where
  /-- The header of a table. -/
  | table (path : List String)
  /-- The header of the next table of an array. -/
  | next (path : List String)
  | assign (path : List String) (v : Toml)
  deriving Repr

namespace TomlDocument

/-- How many arrays and tables may stand within one another in a value. -/
def maxDepth : Nat := 80

/-- What follows blanks, comments and line breaks. -/
def skip (cs : List Char) : List Char :=
  TomlText.skipLines (cs.length + 1) cs

mutual

/-- A value in front of a text, and what follows; `depth` is how many arrays and
tables may still be entered. -/
def value : Nat → Nat → List Char → Option (Toml × List Char)
  | 0, _, _ => none
  | fuel + 1, depth, cs =>
    match cs with
    | '"' :: _ | '\'' :: _ => (TomlText.string cs).map fun p => (.string p.1, p.2)
    | '[' :: r =>
      if depth = 0 then none
      else (items fuel (depth - 1) (skip r)).map (Toml.other, ·)
    | '\x7b' :: r =>
      if depth = 0 then none
      else (members fuel (depth - 1) ⟨.named, []⟩ (skip r)).map (Toml.other, ·)
    | _ => TomlScalar.read cs

/-- What follows the items of an array and its bracket. -/
def items : Nat → Nat → List Char → Option (List Char)
  | 0, _, _ => none
  | fuel + 1, depth, cs =>
    match cs with
    | ']' :: r => some r
    | _ => do
      let (_, r) ← value fuel depth cs
      match skip r with
      | ']' :: r => some r
      | ',' :: r => items fuel depth (skip r)
      | _ => none

/-- What follows the members of a table and its brace; no name stands twice. -/
def members : Nat → Nat → TomlTable → List Char → Option (List Char)
  | 0, _, _, _ => none
  | fuel + 1, depth, t, cs =>
    match cs with
    | '\x7d' :: r => some r
    | _ => do
      let (path, v, r) ← pair skip fuel depth cs
      let t ← t.assign path v
      match skip r with
      | '\x7d' :: r => some r
      | ',' :: r => members fuel depth t (skip r)
      | _ => none

/-- A value under a name; `gap` skips what may stand around the equals sign. -/
def pair (gap : List Char → List Char) :
    Nat → Nat → List Char → Option (List String × Toml × List Char)
  | 0, _, _ => none
  | fuel + 1, depth, cs => do
    let (path, r) ← TomlText.path cs
    match gap r with
    | '=' :: r => do
      let (v, r) ← value fuel depth (gap r)
      return (path, v, r)
    | _ => none

end

/-- A header between brackets, its opening ones already read. -/
def header (close : List Char) (cs : List Char) : Option (List String × List Char) := do
  let (path, r) ← TomlText.path cs
  if close.isPrefixOf r then some (path, r.drop close.length) else none

/-- The line in front of a text, and what follows it. -/
def line (cs : List Char) : Option (TomlLine × List Char) :=
  match cs with
  | '[' :: '[' :: r => (header [']', ']'] r).map fun p => (.next p.1, p.2)
  | '[' :: r => (header [']'] r).map fun p => (.table p.1, p.2)
  | _ => (pair TomlText.skipBlanks (4 * cs.length + 4) maxDepth cs).map fun p => (.assign p.1 p.2.1, p.2.2)

/-- The lines of a text; `fuel` is more than its length. -/
def lines : Nat → List Char → Option (List TomlLine)
  | 0, _ => none
  | fuel + 1, cs =>
    match skip cs with
    | [] => some []
    | cs => do
      let (l, r) ← line cs
      let r ← TomlText.endLine r
      return l :: (← lines fuel r)

/-- A document so far, and the path of the table that its next lines go into. -/
structure Progress where
  root : TomlTable
  current : List String

/-- Takes up a line. -/
def Progress.take (p : Progress) : TomlLine → Option Progress
  | .table path => (p.root.openAt path).map (⟨·, path⟩)
  | .next path => (p.root.openNextAt path).map (⟨·, path⟩)
  | .assign path v => (p.root.descend false (·.assign path v) p.current).map (⟨·, p.current⟩)

/-- The document that a text holds; a mark of the byte order in front does not
count. -/
def read (cs : List Char) : Option TomlTable := do
  let cs := match cs with
    | '\uFEFF' :: r => r
    | _ => cs
  let ls ← lines (cs.length + 1) cs
  let p ← ls.foldlM Progress.take ⟨⟨.named, []⟩, []⟩
  return p.root

end TomlDocument
end ProxyConsole
