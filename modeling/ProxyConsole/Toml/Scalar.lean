/-
# Numbers, truth values and dates of a TOML document

What is written without quotes is a truth value, an integer to the base 10, 16,
8 or 2, a number with a fraction or an exponent, or a date or time or both.

Key definitions: `TomlScalar.integer?`, `TomlScalar.isFloat`,
`TomlScalar.isMoment`, `TomlScalar.read`.
-/
import ProxyConsole.Number.Binary64
import ProxyConsole.Toml.Table
import ProxyConsole.Toml.Text

namespace ProxyConsole
namespace TomlScalar

/-- The digits of a number; a single underscore may stand between two of them. -/
def digits? (base : Nat) (cs : List Char) : Option (List Nat) :=
  match cs with
  | [] => none
  | [c] => (digit c).map fun d => [d]
  | c :: '_' :: cs => do
    let d ← digit c
    return d :: (← digits? base cs)
  | c :: cs => do
    let d ← digit c
    return d :: (← digits? base cs)
where
  digit (c : Char) : Option Nat :=
    (Hex.value? c.toNat).filter (· < base)

/-- The number that digits stand for. -/
def value (base : Nat) (ds : List Nat) : Nat :=
  ds.foldl (fun n d => n * base + d) 0

/-- A text without its sign, and whether the sign is a minus. -/
def unsigned : List Char → Bool × List Char
  | '-' :: cs => (true, cs)
  | '+' :: cs => (false, cs)
  | cs => (false, cs)

/-- The digits of a number to the base 10 without a needless zero in front. -/
def wholeDigits? (cs : List Char) : Option (List Nat) :=
  match cs with
  | '0' :: _ :: _ => none
  | cs => digits? 10 cs

/-- An integer. -/
def integer? (cs : List Char) : Option Int :=
  match cs with
  | '0' :: 'x' :: ds => (digits? 16 ds).map fun n => (value 16 n : Int)
  | '0' :: 'o' :: ds => (digits? 8 ds).map fun n => (value 8 n : Int)
  | '0' :: 'b' :: ds => (digits? 2 ds).map fun n => (value 2 n : Int)
  | cs =>
    let (negative, ds) := unsigned cs
    (wholeDigits? ds).map fun n => if negative then -(value 10 n : Int) else value 10 n

/-- An integer that fits 128 bits, signed or unsigned. -/
def fits (n : Int) : Bool :=
  decide (-0x80000000000000000000000000000000 ≤ n) &&
    decide (n < 0x100000000000000000000000000000000)

/-- What stands before the first character with a property, and from it on. -/
def cut (p : Char → Bool) (cs : List Char) : List Char × List Char :=
  (cs.takeWhile (!p ·), cs.dropWhile (!p ·))

/-- The digits of a fraction with its point, none of them when there is no fraction. -/
def fraction? : List Char → Option (List Nat)
  | [] => some []
  | _ :: ds => digits? 10 ds

/-- The number of an exponent with its letter, zero when there is no exponent. -/
def exponent? : List Char → Option Int
  | [] => some 0
  | _ :: cs =>
    let (negative, ds) := unsigned cs
    (digits? 10 ds).map fun n => if negative then -(value 10 n : Int) else value 10 n

/-- Whether `n * 10 ^ e` is not too large for a binary64 number. -/
def isFinite (n : Nat) (e : Int) : Bool :=
  let size := (Decimal.digits n).length + e
  if n = 0 ∨ size < 309 then true
  else if 309 < size then false
  else (Binary64.ofRatio false (n * Nat.pow 10 e.toNat) (Nat.pow 10 (-e).toNat)).isSome

/-- Whether a text is a number with a fraction or an exponent. -/
def isFloat (cs : List Char) : Bool :=
  let (_, cs) := unsigned cs
  if cs = "inf".toList ∨ cs = "nan".toList then true
  else
    let (mantissa, tail) := cut (fun c => c == 'e' || c == 'E') cs
    let (whole, point) := cut (· == '.') mantissa
    match wholeDigits? whole, fraction? point, exponent? tail with
    | some w, some f, some e =>
      !(point.isEmpty && tail.isEmpty) && isFinite (value 10 (w ++ f)) (e - f.length)
    | _, _, _ => false

/-- A number of a given count of digits in front of a text, and what follows. -/
def fixed (n : Nat) (cs : List Char) : Option (Nat × List Char) := do
  let ds ← (cs.take n).mapM Decimal.digit?
  if ds.length = n then some (Decimal.value ds, cs.drop n) else none

/-- What follows a character. -/
def after (c : Char) : List Char → Option (List Char)
  | [] => none
  | d :: cs => if d = c then some cs else none

def isLeap (year : Nat) : Bool :=
  year % 4 == 0 && (year % 100 != 0 || year % 400 == 0)

def daysIn (year month : Nat) : Nat :=
  if month = 2 then (if isLeap year then 29 else 28)
  else if month = 4 ∨ month = 6 ∨ month = 9 ∨ month = 11 then 30
  else 31

/-- What follows a date. -/
def date? (cs : List Char) : Option (List Char) := do
  let (year, cs) ← fixed 4 cs
  let (month, cs) ← fixed 2 (← after '-' cs)
  let (day, cs) ← fixed 2 (← after '-' cs)
  if 1 ≤ month ∧ month ≤ 12 ∧ 1 ≤ day ∧ day ≤ daysIn year month then some cs else none

/-- What follows a time; seconds and their fraction may be left out. -/
def time? (cs : List Char) : Option (List Char) := do
  let (hour, cs) ← fixed 2 cs
  let (minute, cs) ← fixed 2 (← after ':' cs)
  if hour ≤ 23 ∧ minute ≤ 59 then
    match cs with
    | ':' :: cs => do
      let (second, cs) ← fixed 2 cs
      if second ≤ 60 then
        match cs with
        | '.' :: ds =>
          if (ds.takeWhile Char.isDigit).isEmpty then none else some (ds.dropWhile Char.isDigit)
        | _ => some cs
      else none
    | _ => some cs
  else none

/-- Whether a text is an offset from UTC. -/
def isOffset : List Char → Bool
  | ['Z'] | ['z'] => true
  | s :: cs =>
    (s == '+' || s == '-') &&
      (match fixed 2 cs with
        | some (hour, ':' :: cs) =>
          (match fixed 2 cs with
            | some (minute, []) => hour ≤ 23 && minute ≤ 59
            | _ => false)
        | _ => false)
  | [] => false

/-- Whether a text is a date, a time, or both with or without an offset. -/
def isMoment (cs : List Char) : Bool :=
  match time? cs with
  | some [] => true
  | _ =>
    match date? cs with
    | some [] => true
    | some (t :: cs) =>
      (t == 'T' || t == 't' || t == ' ') &&
        (match time? cs with
          | some [] => true
          | some r => isOffset r
          | none => false)
    | none => false

/-- A character of what is written without quotes. -/
def isPart (c : Char) : Bool :=
  c.isAlphanum || c == '+' || c == '-' || c == '_' || c == '.' || c == ':'

/-- The value that is written as a text. -/
def classify (cs : List Char) : Option Toml :=
  if cs = "true".toList ∨ cs = "false".toList then some .other
  else match integer? cs with
    | some n => if fits n then some (.integer n) else none
    | none => if isFloat cs || isMoment cs then some .other else none

/-- The text of a value in front of a text, and what follows; a space may stand
between a date and a time. -/
def span (cs : List Char) : List Char × List Char :=
  let head := cs.takeWhile isPart
  match cs.dropWhile isPart, date? head with
  | ' ' :: d :: r, some [] =>
    if d.isDigit then (head ++ ' ' :: (d :: r).takeWhile isPart, (d :: r).dropWhile isPart)
    else (head, ' ' :: d :: r)
  | r, _ => (head, r)

/-- A value without quotes, and what follows. -/
def read (cs : List Char) : Option (Toml × List Char) :=
  let (text, r) := span cs
  (classify text).map (·, r)

end TomlScalar
end ProxyConsole
