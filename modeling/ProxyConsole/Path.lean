/-
# Paths

A path is a text of names with slashes between them. Paths are joined and cut as
they are written: slashes in a row and single dots stay where they stand, but
for those behind the last name.

Key definitions: `Path.join`, `Path.parent?`, `Path.expand`.
-/
import ProxyConsole.Text.Split

namespace ProxyConsole
namespace Path

/-- Whether a path begins at the root. -/
def isAbsolute (p : String) : Bool :=
  p.toList.head? == some '/'

/-- A path within a folder. -/
def join (folder p : String) : String :=
  if isAbsolute p then p
  else if folder.isEmpty ∨ folder.toList.getLast? = some '/' then folder ++ p
  else folder ++ "/" ++ p

/-- A path with the home folder in place of a tilde that stands alone in front. -/
def expand (home p : String) : String :=
  match p.toList with
  | ['~'] => home
  | '~' :: '/' :: cs => home ++ String.ofList ('/' :: cs)
  | _ => p

/-- Pieces of a path without those at the end that name nothing. -/
def named (pieces : List (List Char)) : List (List Char) :=
  (pieces.reverse.dropWhile fun s => s.isEmpty || s == ['.']).reverse

/-- The path of the folder around what a path names; the root and the empty path have
none. A dot in front counts as a name. -/
def parent? (p : String) : Option String :=
  let pieces := Text.split '/' p.toList
  let front := if isAbsolute p ∨ pieces.head? = some ['.'] then 1 else 0
  match (named (pieces.drop front)).reverse with
  | [] => if front = 1 ∧ !isAbsolute p then some "" else none
  | _ :: above =>
    let rest := named above.reverse
    if isAbsolute p ∧ rest = [] then some "/"
    else some (String.ofList (Text.join '/' (pieces.take front ++ rest)))

/-- The path of the folder around a path; empty where there is none. -/
def folder (p : String) : String :=
  (parent? p).getD ""

end Path
end ProxyConsole
