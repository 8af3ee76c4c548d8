/-
# Names and strings of a TOML document

A string stands between quotes, with escapes, or between apostrophes, as it is;
three of either let it go over lines. A name is bare or quoted, and names with
dots between them are a path. Each reader gives what it read and what follows,
or none.

Key definitions: `TomlText.basic`, `TomlText.basicLines`, `TomlText.plain`,
`TomlText.plainLines`, `TomlText.path`.
-/
import ProxyConsole.Number.Decimal
import ProxyConsole.Number.Hex

namespace ProxyConsole
namespace TomlText

/-- A blank within a line. -/
def isBlank (c : Char) : Bool := c == ' ' || c == '\t'

/-- A control character that may stand nowhere in a line. -/
def isControl (c : Char) : Bool :=
  (c.toNat < 0x20 && c != '\t') || c.toNat == 0x7F

def skipBlanks (cs : List Char) : List Char := cs.dropWhile isBlank

/-- The line break that a text begins with, if it does, and what follows it. -/
def lineBreak : List Char → Option (List Char × List Char)
  | '\n' :: cs => some (['\n'], cs)
  | '\r' :: '\n' :: cs => some (['\r', '\n'], cs)
  | _ => none

/-- What follows a line break, if the text begins with one. -/
def afterBreak (cs : List Char) : Option (List Char) :=
  (lineBreak cs).map (·.2)

/-- What follows a comment, if the text begins with one; its line break is left. -/
def afterComment : List Char → Option (List Char)
  | '#' :: cs => some (cs.dropWhile fun c => !isControl c)
  | _ => none

/-- What follows the end of a line: blanks, a comment, and a line break or the end
of the text. -/
def endLine (cs : List Char) : Option (List Char) :=
  let cs := skipBlanks cs
  let cs := (afterComment cs).getD cs
  if cs.isEmpty then some [] else afterBreak cs

/-- What follows blanks, comments and line breaks; `fuel` is at least the length of
the text. -/
def skipLines : Nat → List Char → List Char
  | 0, cs => cs
  | fuel + 1, cs =>
    let cs := skipBlanks cs
    match afterBreak cs, afterComment cs with
    | some r, _ => skipLines fuel r
    | _, some r => skipLines fuel r
    | _, _ => cs

/-- The character whose code is written in base sixteen. -/
def hexChar (ds : List Char) : Option Char := do
  let n ← ds.foldlM (fun n d => (Hex.value? d.toNat).map (16 * n + ·)) 0
  if n < 0x110000 ∧ ¬ (0xD800 ≤ n ∧ n ≤ 0xDFFF) then some (Char.ofNat n) else none

/-- The character that a short escape stands for. -/
def shortEscape (c : Char) : Option Char :=
  match c with
  | '"' => some '"'
  | '\\' => some '\\'
  | 'b' => some (Char.ofNat 8)
  | 't' => some '\t'
  | 'n' => some '\n'
  | 'f' => some (Char.ofNat 12)
  | 'r' => some '\r'
  | 'e' => some (Char.ofNat 27)
  | _ => none

/-- The character that an escape stands for, and what follows it; the backslash has
been read. -/
def escape : List Char → Option (Char × List Char)
  | 'x' :: cs => numbered 2 cs
  | 'u' :: cs => numbered 4 cs
  | 'U' :: cs => numbered 8 cs
  | c :: cs => (shortEscape c).map (·, cs)
  | [] => none
where
  numbered (n : Nat) (cs : List Char) : Option (Char × List Char) :=
    if (cs.take n).length = n then (hexChar (cs.take n)).map (·, cs.drop n) else none

/-- What was read with more characters in front. -/
def prepend (cs : List Char) (r : Option (List Char × List Char)) : Option (List Char × List Char) :=
  r.map fun p => (cs ++ p.1, p.2)

/-- What was read with one more character in front. -/
def push (c : Char) (r : Option (List Char × List Char)) : Option (List Char × List Char) :=
  r.map fun p => (c :: p.1, p.2)

/-- A string up to its quote; `fuel` is more than the length of the text. -/
def basic : Nat → List Char → Option (List Char × List Char)
  | 0, _ => none
  | _, [] => none
  | fuel + 1, c :: cs =>
    if c = '"' then some ([], cs)
    else if c = '\\' then do
      let (e, r) ← escape cs
      push e (basic fuel r)
    else if isControl c then none
    else push c (basic fuel cs)

/-- What follows blanks and line breaks. -/
def skipSpace : List Char → List Char
  | ' ' :: cs | '\t' :: cs | '\n' :: cs => skipSpace cs
  | '\r' :: '\n' :: cs => skipSpace cs
  | cs => cs

/-- What follows a line break that a backslash takes away, with all blanks and line
breaks behind it. -/
def afterJoint (cs : List Char) : Option (List Char) :=
  (afterBreak (skipBlanks cs)).map skipSpace

/-- A string over lines up to its three quotes; up to two quotes may stand before
them. Line breaks stay as they are written. -/
def basicLines : Nat → List Char → Option (List Char × List Char)
  | 0, _ => none
  | _, [] => none
  | fuel + 1, c :: cs =>
    match c, cs with
    | '"', '"' :: '"' :: '"' :: '"' :: r => some (['"', '"'], r)
    | '"', '"' :: '"' :: '"' :: r => some (['"'], r)
    | '"', '"' :: '"' :: r => some ([], r)
    | '\\', cs =>
      match afterJoint cs with
      | some r => basicLines fuel r
      | none => do
        let (e, r) ← escape cs
        push e (basicLines fuel r)
    | c, cs =>
      match lineBreak (c :: cs) with
      | some (b, r) => prepend b (basicLines fuel r)
      | none => if isControl c then none else push c (basicLines fuel cs)

/-- A string up to its apostrophe. -/
def plain : List Char → Option (List Char × List Char)
  | [] => none
  | c :: cs =>
    if c = '\'' then some ([], cs) else if isControl c then none else push c (plain cs)

/-- A string over lines up to its three apostrophes; up to two apostrophes may
stand before them. -/
def plainLines : Nat → List Char → Option (List Char × List Char)
  | 0, _ => none
  | _, [] => none
  | fuel + 1, c :: cs =>
    match c, cs with
    | '\'', '\'' :: '\'' :: '\'' :: '\'' :: r => some (['\'', '\''], r)
    | '\'', '\'' :: '\'' :: '\'' :: r => some (['\''], r)
    | '\'', '\'' :: '\'' :: r => some ([], r)
    | c, cs =>
      match lineBreak (c :: cs) with
      | some (b, r) => prepend b (plainLines fuel r)
      | none => if isControl c then none else push c (plainLines fuel cs)

/-- A text without the line break that it begins with. -/
def dropBreak (cs : List Char) : List Char :=
  (afterBreak cs).getD cs

/-- A string of any kind, if the text begins with one. -/
def string (cs : List Char) : Option (String × List Char) :=
  let r := match cs with
    | '"' :: '"' :: '"' :: cs => basicLines (cs.length + 1) (dropBreak cs)
    | '"' :: cs => basic (cs.length + 1) cs
    | '\'' :: '\'' :: '\'' :: cs => plainLines (cs.length + 1) (dropBreak cs)
    | '\'' :: cs => plain cs
    | _ => none
  r.map fun p => (String.ofList p.1, p.2)

/-- A character of a bare name. -/
def isBare (c : Char) : Bool :=
  c.isAlphanum || c == '_' || c == '-'

/-- A name. -/
def name (cs : List Char) : Option (String × List Char) :=
  let r := match cs with
    | '"' :: cs => basic (cs.length + 1) cs
    | '\'' :: cs => plain cs
    | cs => if (cs.takeWhile isBare).isEmpty then none else some (cs.takeWhile isBare, cs.dropWhile isBare)
  r.map fun p => (String.ofList p.1, p.2)

/-- Names with dots between them; blanks may stand around each. There are no more
than `fuel` names. -/
def names : Nat → List Char → Option (List String × List Char)
  | 0, _ => none
  | fuel + 1, cs => do
    let (k, r) ← name (skipBlanks cs)
    match skipBlanks r with
    | '.' :: r => do
      let (ks, r) ← names fuel r
      return (k :: ks, r)
    | r => return ([k], r)

/-- How many names a path may have. -/
def maxNames : Nat := 80

/-- A path. -/
def path (cs : List Char) : Option (List String × List Char) :=
  names maxNames cs

end TomlText
end ProxyConsole
