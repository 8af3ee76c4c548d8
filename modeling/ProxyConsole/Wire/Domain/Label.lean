/-
# Labels of names

A label of a name is written in ASCII: one with other characters as `xn--` and
their numbers. Such a label has to read well: no mark begins it, a joiner stands
only where letters join, and where a name is written from right to left, each of
its labels keeps one direction.

Key definitions: `Domain.Label`, `Domain.Label.ofText?`, `Domain.Label.keepsDirection`.
-/
import ProxyConsole.Wire.Domain.Mapping
import ProxyConsole.Wire.Punycode
import ProxyConsole.Text.Composed
import ProxyConsole.Text.Direction
import ProxyConsole.Text.Joining

namespace ProxyConsole
namespace Domain

/-- A label as it is read and as it is written. -/
structure Label where
  shown : List Char
  written : List Char
  deriving DecidableEq, Repr

namespace Label

def isAscii (cs : List Char) : Bool :=
  cs.all fun c => c.toNat < 0x80

/-! ### Joiners -/

/-- The character between letters that keeps them apart. -/
def nonJoiner : Char := '\u200c'

/-- The character between letters that joins them. -/
def joiner : Char := '\u200d'

/-- Whether the first character that letters do not join across is of a kind. -/
def meets (kind : Char → Bool) (cs : List Char) : Bool :=
  match cs.dropWhile Text.isTransparent with
  | [] => false
  | c :: _ => kind c

/-- Whether a joiner may stand behind the characters of `before`, the last first, and
in front of those of `after`: behind a virama any, between letters that would join
the one that keeps them apart. -/
def mayJoin (c : Char) (before after : List Char) : Bool :=
  match before with
  | [] => false
  | p :: _ =>
    Text.isVirama p ||
      (c == nonJoiner && meets Text.joinsNext before && meets Text.joinsPrevious after)

/-- Whether every joiner behind the characters of `before`, the last first, may stand
where it stands. -/
def joinsWell (before : List Char) : List Char → Bool
  | [] => true
  | c :: cs =>
    ((c != nonJoiner && c != joiner) || mayJoin c before cs) && joinsWell (c :: before) cs

/-- Whether a label with characters outside ASCII may stand in a name. -/
def readsWell (cs : List Char) : Bool :=
  !(cs.head?.map Text.isMark).getD false && joinsWell [] cs

/-! ### Writing -/

/-- The greatest length of a label with characters outside ASCII. -/
def maxLength : Nat := 1000

/-- The greatest length of the numbers of a label. -/
def maxNumbers : Nat := 2000

/-- The label whose characters outside ASCII are written as numbers. It has to be one
that is written like that: of characters that stand for themselves, composed, with
one outside ASCII, and not in turn with `xn--` in front. -/
def ofNumbers? (cs : List Char) : Option Label :=
  match (if cs.length ≤ maxNumbers then Punycode.decode cs else none) with
  | none => none
  | some shown =>
    if isAscii shown ∨ !shown.all stands ∨ Text.composed shown ≠ shown ∨ !readsWell shown ∨
        "xn--".toList.isPrefixOf shown then none
    else some ⟨shown, "xn--".toList ++ cs⟩

/-- The label that a composed text is. -/
def ofText? : List Char → Option Label
  | 'x' :: 'n' :: '-' :: '-' :: cs => ofNumbers? cs
  | cs =>
    if isAscii cs then some ⟨cs, cs⟩
    else if maxLength < cs.length ∨ !readsWell cs then none
    else some ⟨cs, "xn--".toList ++ Punycode.encode cs⟩

/-! ### Direction -/

/-- Whether a label holds a character from right to left or an Arabic number. -/
def turns (l : Label) : Bool :=
  l.shown.any fun c =>
    0x80 ≤ c.toNat && (Text.direction c == .right || Text.direction c == .arabicNumber)

/-- Whether a label keeps one direction: it begins with a letter, holds no letter of the
other direction, ends with a letter or a number but for marks, and from right to
left its numbers are of one kind. -/
def keepsDirection (l : Label) : Bool :=
  let ds := l.shown.map Text.direction
  let last := (ds.reverse.dropWhile (· == .mark)).head?
  match ds with
  | [] => true
  | .left :: _ =>
    !ds.contains .right && !ds.contains .arabicNumber &&
      (last == some .left || last == some .number)
  | .right :: _ =>
    !ds.contains .left && !(ds.contains .number && ds.contains .arabicNumber) &&
      last != some .neutral
  | _ => false

end Label
end Domain
end ProxyConsole
