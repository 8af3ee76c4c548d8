/-
# Tables of characters

A table is written in lines of words. A word is a row: a character by its number
in base sixteen, or a range of characters (`61-7A`, or `61-79/2` for every
second one), and behind a colon the numbers that belong to the first of them,
with dots between them (`41-5A:61`).

Key definitions: `Text.Row`, `Text.Table.ofLines`, `Text.Table.row?`, `Text.Table.has`.
-/
import ProxyConsole.Text.Split

namespace ProxyConsole
namespace Text

/-- A row of a table: every character from the first to the last by steps, and the
numbers that belong to the first. -/
structure Row where
  first : Nat
  last : Nat
  step : Nat
  values : List Nat
  deriving DecidableEq, Repr, Inhabited

namespace Row

/-- The value of a digit of base sixteen, in upper case. -/
def digit (c : Char) : Nat :=
  if c.isDigit then c.toNat - 48 else c.toNat - 55

/-- A number in base sixteen. -/
def number (cs : List Char) : Nat :=
  cs.foldl (fun n c => 16 * n + digit c) 0

/-- The row that a word is. -/
def ofWord (cs : List Char) : Row :=
  let (range, values) := match split ':' cs with
    | [r, vs] => (r, (split '.' vs).map number)
    | _ => (cs, [])
  let (ends, step) := match split '/' range with
    | [e, s] => (e, number s)
    | _ => (range, 1)
  match split '-' ends with
  | [a, b] => ⟨number a, number b, step, values⟩
  | _ => ⟨number ends, number ends, step, values⟩

/-- Whether a character is one of the row. -/
def covers (r : Row) (c : Char) : Bool :=
  r.first ≤ c.toNat && c.toNat ≤ r.last && (c.toNat - r.first) % r.step == 0

/-- The numbers that belong to a character of the row: they move on with it. -/
def valuesAt (r : Row) (c : Char) : List Nat :=
  r.values.map (· + (c.toNat - r.first))

end Row

/-- A table of characters. -/
abbrev Table := List Row

namespace Table

/-- The table that is written in lines of words. -/
def ofLines (ls : List String) : Table :=
  ls.flatMap fun l => (split ' ' l.toList).map Row.ofWord

/-- The row of a character. -/
def row? (t : Table) (c : Char) : Option Row :=
  t.find? (·.covers c)

/-- Whether a character has a row. -/
def has (t : Table) (c : Char) : Bool :=
  t.any (·.covers c)

end Table
end Text
end ProxyConsole
