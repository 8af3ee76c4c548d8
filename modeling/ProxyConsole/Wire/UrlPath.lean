/-
# Paths of addresses

A path is a text of its own, or segments behind slashes. Reading follows the
segments of dots: one dot stays, two dots go up a segment, but not above the
root and not above a drive. In the path of a file the drive in front is
written with a colon, and no empty segment stands in front of another.

Key definitions: `UrlPath`, `UrlPath.segments`, `UrlPath.ofFile`.
-/
import ProxyConsole.Wire.Percent
import ProxyConsole.Text.Split

namespace ProxyConsole

/-- The path of an address: segments behind slashes, or a text of its own. -/
inductive UrlPath where
  | rooted (segments : List (List Char))
  | bare (text : List Char)
  deriving DecidableEq, Repr

namespace UrlPath

/-- A segment in which encoded dots are written as dots. -/
def dots : List Char → List Char
  | '%' :: '2' :: 'e' :: cs | '%' :: '2' :: 'E' :: cs => '.' :: dots cs
  | c :: cs => c :: dots cs
  | [] => []

/-- The segment that stands for the place itself. -/
def isHere (s : List Char) : Bool := dots s == ['.']

/-- The segment that stands for the place above. -/
def isUp (s : List Char) : Bool := dots s == ['.', '.']

/-- A letter with a colon or a bar behind it names a drive. -/
def isDrive : List Char → Bool
  | [a, b] => a.isAlpha && (b == ':' || b == '|')
  | _ => false

/-- The place above the one whose segments, the last first, are `done`. -/
def above : List (List Char) → List (List Char)
  | [] => []
  | s :: ss => if isDrive s then s :: ss else ss

/-- Follows segments from the place whose segments, the last first, are `done`. -/
def walk (done : List (List Char)) : List (List Char) → List (List Char)
  | [] => done.reverse
  | s :: ss =>
    let done := if isUp s then above done else if isHere s then done else s :: done
    if ss.isEmpty && (isUp s || isHere s) then ([] :: done).reverse else walk done ss

/-- The segments of a path, which begins with a slash unless it is empty; in an
address of the web a backslash is a slash. -/
def segments (web : Bool) (cs : List Char) : List (List Char) :=
  let cs := if web then cs.map fun c => if c = '\\' then '/' else c else cs
  let cs := match cs with
    | '/' :: r => r
    | _ => cs
  walk [] ((Text.split '/' cs).map (Percent.encode Percent.inPath))

/-- The segments of the path of a file, and whether a drive stands in front. -/
def ofFile : List (List Char) → List (List Char) × Bool
  | [] => ([[]], false)
  | s :: ss =>
    if isDrive s then ((s.take 1 ++ [':']) :: ss, true)
    else
      let ss := (s :: ss).dropWhile (·.isEmpty)
      (if ss.isEmpty then [[]] else ss, false)

def text : UrlPath → List Char
  | rooted ss => ss.flatMap ('/' :: ·)
  | bare cs => cs

end UrlPath
end ProxyConsole
