/-
# Places and the trails to them

A place on a disk is the list of names on the way from the folder that the
program runs in, or from the root. A path is a trail of steps to a place: a name
goes into a folder, two dots go out of it, one dot stays. How a path ends decides
what may be done at its goal.

Key definitions: `Place`, `Trail`, `Trail.ofText`.
-/
import ProxyConsole.Path

namespace ProxyConsole

/-- A place on a disk. -/
structure Place where
  absolute : Bool
  names : List String
  deriving DecidableEq, Repr

namespace Place

/-- Whether a place is where a walk starts, or above it. -/
def isStart (p : Place) : Bool :=
  p.names.all (· == "..")

/-- The folder around a place; the root is around itself. -/
def above (p : Place) : Place :=
  if p.isStart then (if p.absolute then p else { p with names := ".." :: p.names })
  else { p with names := p.names.dropLast }

/-- The place that a name leads to from another. -/
def step (p : Place) (name : String) : Place :=
  if name = "." then p
  else if name = ".." then p.above
  else { p with names := p.names ++ [name] }

/-- Whether a place is `p` or within it. -/
def isWithin (p q : Place) : Bool :=
  p.absolute == q.absolute && p.names.isPrefixOf q.names

end Place

/-- How a path ends. -/
inductive Ending where
  | name
  /-- With a name and a slash. -/
  | slash
  /-- With dots, or at the root. -/
  | dots
  deriving DecidableEq, Repr

/-- The steps of a path, each with the place that it is made from, the place that they
lead to, and how the path ends. -/
structure Trail where
  steps : List (Place × String)
  goal : Place
  ending : Ending
  deriving Repr

namespace Trail

/-- The steps that names make from a place. -/
def stepsFrom (p : Place) : List String → List (Place × String)
  | [] => []
  | s :: ss => (p, s) :: stepsFrom (p.step s) ss

/-- The trail of a path; slashes in a row count as one. -/
def ofText (path : String) : Trail :=
  let pieces := (Text.split '/' path.toList).map String.ofList
  let names := pieces.filter (· ≠ "")
  let start : Place := ⟨Path.isAbsolute path, []⟩
  { steps := stepsFrom start names
    goal := names.foldl Place.step start
    ending := match names.getLast? with
      | none => .dots
      | some s =>
        if s = "." ∨ s = ".." then .dots
        else if pieces.getLast? = some "" then .slash
        else .name }

/-- The places that the steps lead to, in order. -/
def places (t : Trail) : List Place :=
  t.steps.map fun s => s.1.step s.2

end Trail
end ProxyConsole
