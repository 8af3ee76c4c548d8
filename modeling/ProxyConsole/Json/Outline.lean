/-
# The outline of a JSON text

An outline says what stands where in a text: values, items and members in the
order in which they are written, strings with their escapes unread, and at the
end of each array and object how it ended. Reading never fails; where the text
cannot go on, the outline holds the flaw at that place and reading stops. What a
flaw means, and which of several counts, is decided by whoever walks the
outline from left to right.

Key definitions: `StringBody.read`, `Head.read`, `Outline.read`.
-/
import ProxyConsole.Json.Basic

namespace ProxyConsole

/-- A piece of a string: a byte, also one that a short escape stands for, or a
unit of UTF-16 that is written as four hexadecimal digits. -/
inductive Piece where
  | byte (b : UInt8)
  | unit (u : Nat)
  deriving DecidableEq, Repr

/-- How a string ends. -/
inductive StringEnd where
  /-- With a quote. -/
  | closed
  /-- The text ends first. -/
  | ended
  /-- With a control character. -/
  | control
  /-- With an unknown escape. -/
  | badEscape
  /-- With an escape whose four characters are not hexadecimal digits. -/
  | badHex
  deriving DecidableEq, Repr

/-- What stands between the quotes of a string. -/
structure StringBody where
  pieces : List Piece
  stop : StringEnd
  deriving DecidableEq, Repr

namespace StringBody

/-- Where a reader of a string stands. -/
inductive Mode where
  /-- Between pieces. -/
  | plain
  /-- Behind a backslash. -/
  | escape
  /-- Within the four characters of a hexadecimal escape, those so far reversed. -/
  | hex (got : List UInt8)
  deriving DecidableEq, Repr

/-- The byte that a short escape stands for. -/
def shortEscape (b : UInt8) : Option UInt8 :=
  if b = 34 ∨ b = 92 ∨ b = 47 then some b
  else if b = 98 then some 8
  else if b = 102 then some 12
  else if b = 110 then some 10
  else if b = 114 then some 13
  else if b = 116 then some 9
  else none

/-- The number that hexadecimal digits stand for, the last digit first. -/
def hexNumber : List UInt8 → Option Nat
  | [] => some 0
  | b :: bs => (hexNumber bs).bind fun n => (Hex.value? b.toNat).map (n * 16 + ·)

/-- A body with one more piece in front. -/
def push (p : Piece) (r : StringBody × List UInt8) : StringBody × List UInt8 :=
  (⟨p :: r.1.pieces, r.1.stop⟩, r.2)

/-- The body of a string read from within, and what follows its end. -/
def scan : Mode → List UInt8 → StringBody × List UInt8
  | _, [] => (⟨[], .ended⟩, [])
  | .plain, b :: s =>
    if b = 34 then (⟨[], .closed⟩, s)
    else if b = 92 then scan .escape s
    else if b < 0x20 then (⟨[], .control⟩, [])
    else push (.byte b) (scan .plain s)
  | .escape, b :: s =>
    if b = 117 then scan (.hex []) s
    else match shortEscape b with
      | some c => push (.byte c) (scan .plain s)
      | none => (⟨[], .badEscape⟩, [])
  | .hex got, b :: s =>
    if got.length < 3 then scan (.hex (b :: got)) s
    else match hexNumber (b :: got) with
      | some u => push (.unit u) (scan .plain s)
      | none => (⟨[], .badHex⟩, [])

/-- The body of a string whose opening quote has been read. -/
def read (s : List UInt8) : StringBody × List UInt8 :=
  scan .plain s

end StringBody

/-- What keeps a value from being read. -/
inductive Flaw where
  /-- No value begins there. -/
  | noValue
  /-- The text ends. -/
  | ended
  /-- A word that the end of the text cuts short. -/
  | wordEnded
  /-- A word that begins like `null`, `true` or `false` and goes on otherwise. -/
  | badWord
  /-- A numeral with a character that cannot stand there. -/
  | badNumeral
  /-- A numeral that the end of the text cuts short. -/
  | numeralEnded
  deriving DecidableEq, Repr

/-- A value without parts, or the flaw that stands in its place. -/
inductive Leaf where
  | null
  | bool (b : Bool)
  | number (n : Numeral)
  | string (t : StringBody)
  | broken (f : Flaw)
  deriving DecidableEq, Repr

/-- What a value begins with. -/
inductive Head where
  | leaf (l : Leaf)
  /-- An opening bracket. -/
  | array
  /-- An opening brace. -/
  | object
  deriving DecidableEq, Repr

/-- How an array ends. -/
inductive ItemsEnd where
  /-- With a bracket. -/
  | closed
  /-- The text ends where a comma or the bracket should stand. -/
  | ended
  /-- The text ends behind a comma. -/
  | endedAfterComma
  /-- With a bracket behind a comma. -/
  | closedAfterComma
  /-- With something else where a comma or the bracket should stand. -/
  | unseparated
  deriving DecidableEq, Repr

/-- How an object ends. -/
inductive MembersEnd where
  /-- With a brace. -/
  | closed
  /-- The text ends where a comma or the brace should stand. -/
  | ended
  /-- The text ends behind a comma. -/
  | endedAfterComma
  /-- With a brace behind a comma. -/
  | closedAfterComma
  /-- With something else where a comma or the brace should stand. -/
  | unseparated
  /-- With something else where a name should stand. -/
  | notAName (found : Head)
  /-- With a name that no colon follows: the text ends, or something else stands there. -/
  | nameOnly (name : StringBody) (textEnds : Bool)
  deriving DecidableEq, Repr

/-- What stands where in a JSON text. -/
inductive Outline where
  | leaf (l : Leaf)
  | array (items : List Outline) (stop : ItemsEnd)
  | object (members : List (StringBody × Outline)) (stop : MembersEnd)
  deriving Repr

/-- Blanks between the tokens: space, tab, line feed, carriage return. -/
def isJsonBlank (b : UInt8) : Bool :=
  b == 32 || b == 9 || b == 10 || b == 13

/-- The text without the blanks in front. -/
def skipBlanks (s : List UInt8) : List UInt8 :=
  s.dropWhile isJsonBlank

namespace Head

/-- What follows the given letters, or the flaw where the text differs. -/
def expect : List UInt8 → List UInt8 → Except Flaw (List UInt8)
  | [], s => .ok s
  | _ :: _, [] => .error .wordEnded
  | w :: ws, b :: s => if b = w then expect ws s else .error .badWord

/-- A word whose first letter has been read. -/
def word (letters : List UInt8) (l : Leaf) (s : List UInt8) : Head × List UInt8 :=
  match expect letters s with
  | .ok r => (.leaf l, r)
  | .error f => (.leaf (.broken f), [])

/-- A numeral that begins with a sign or a digit. -/
def numeral (s : List UInt8) : Head × List UInt8 :=
  match Numeral.read s with
  | .ok (n, r) => (.leaf (.number n), r)
  | .error .bad => (.leaf (.broken .badNumeral), [])
  | .error .ended => (.leaf (.broken .numeralEnded), [])

/-- What a value begins with that begins with the byte `b`, and what follows. -/
def read (b : UInt8) (s : List UInt8) : Head × List UInt8 :=
  if b = 34 then
    let t := StringBody.read s
    (.leaf (.string t.1), t.2)
  else if b = 91 then (.array, s)
  else if b = 123 then (.object, s)
  else if b = 110 then word [117, 108, 108] .null s
  else if b = 116 then word [114, 117, 101] (.bool true) s
  else if b = 102 then word [97, 108, 115, 101] (.bool false) s
  else if b = 45 || Numeral.isDigit b then numeral (b :: s)
  else (.leaf (.broken .noValue), [])

end Head

namespace Outline

/-- What a value begins with. -/
def head : Outline → Head
  | leaf l => .leaf l
  | array _ _ => .array
  | object _ _ => .object

mutual

/-- The value at the front, within `fuel` steps, and what follows it. -/
def readValue : Nat → List UInt8 → Outline × List UInt8
  | 0, _ => (.leaf (.broken .ended), [])
  | fuel + 1, s =>
    match skipBlanks s with
    | [] => (.leaf (.broken .ended), [])
    | b :: r =>
      match Head.read b r with
      | (.leaf l, t) => (.leaf l, t)
      | (.array, t) =>
        match skipBlanks t with
        | [] => (.array [] .ended, [])
        | c :: u =>
          if c = 93 then (.array [] .closed, u)
          else
            let v := readItems fuel (c :: u)
            (.array v.1 v.2.1, v.2.2)
      | (.object, t) =>
        match skipBlanks t with
        | [] => (.object [] .ended, [])
        | c :: u =>
          if c = 125 then (.object [] .closed, u)
          else
            let v := readMembers fuel (c :: u)
            (.object v.1 v.2.1, v.2.2)

/-- The items from the front to the end of the array. -/
def readItems : Nat → List UInt8 → List Outline × ItemsEnd × List UInt8
  | 0, _ => ([], .ended, [])
  | fuel + 1, s =>
    let v := readValue fuel s
    match skipBlanks v.2 with
    | [] => ([v.1], .ended, [])
    | b :: r =>
      if b = 93 then ([v.1], .closed, r)
      else if b = 44 then
        match skipBlanks r with
        | [] => ([v.1], .endedAfterComma, [])
        | c :: t =>
          if c = 93 then ([v.1], .closedAfterComma, [])
          else
            let vs := readItems fuel (c :: t)
            (v.1 :: vs.1, vs.2)
      else ([v.1], .unseparated, [])

/-- The members from the front, where a name should stand, to the end of the
object. -/
def readMembers : Nat → List UInt8 → List (StringBody × Outline) × MembersEnd × List UInt8
  | 0, _ => ([], .ended, [])
  | _, [] => ([], .ended, [])
  | fuel + 1, b :: s =>
    if b = 34 then
      let k := StringBody.read s
      match skipBlanks k.2 with
      | [] => ([], .nameOnly k.1 true, [])
      | c :: r =>
        if c = 58 then
          let v := readValue fuel r
          match skipBlanks v.2 with
          | [] => ([(k.1, v.1)], .ended, [])
          | d :: t =>
            if d = 125 then ([(k.1, v.1)], .closed, t)
            else if d = 44 then
              match skipBlanks t with
              | [] => ([(k.1, v.1)], .endedAfterComma, [])
              | e :: u =>
                if e = 125 then ([(k.1, v.1)], .closedAfterComma, [])
                else
                  let ms := readMembers fuel (e :: u)
                  ((k.1, v.1) :: ms.1, ms.2)
            else ([(k.1, v.1)], .unseparated, [])
        else ([], .nameOnly k.1 false, [])
    else ([], .notAName (Head.read b s).1, [])

end

/-- The outline of a text, and what follows its value but blanks; every step of
the reader takes at least one byte. -/
def read (s : List UInt8) : Outline × List UInt8 :=
  let v := readValue (s.length + 1) s
  (v.1, skipBlanks v.2)

end Outline
end ProxyConsole
