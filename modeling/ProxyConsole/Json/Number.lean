/-
# JSON numbers

A numeral without fraction and exponent is an integer when it fits 64 bits,
signed or unsigned; every other numeral, and `-0`, is a binary64 number. Its
significand is the longest run of digits that fits 64 bits; the digits after
it count as zeros before the point and are dropped after it, and the power of
ten is applied by `Binary64.scale`.

Key definitions: `Numeral`, `Numeral.read`, `Numeral.value`, `Number.text`.
Key theorem: `Numeral.absorb_of_le`.
-/
import ProxyConsole.Number.Shortest

namespace ProxyConsole

/-- A JSON number: an integer of 64 bits or a binary64 number. -/
inductive Number where
  | integer (n : Int)
  | double (x : Binary64)
  deriving DecidableEq, Repr

namespace Number

/-- The text of a number. -/
def text : Number → List Char
  | integer n => Decimal.intText n
  | double x => x.text

end Number

/-- The parts of a number as it is written: the digits before the point, those
after it (none when there is no point), and the exponent with whether it is
negative. -/
structure Numeral where
  negative : Bool
  whole : List Nat
  fraction : List Nat
  exponent : Option (Bool × List Nat)
  deriving DecidableEq, Repr

namespace Numeral

/-- The greatest significand. -/
def maxSignificand : Nat := 0xFFFFFFFFFFFFFFFF

/-- Takes up digits behind `n` while the number fits 64 bits; the digits that
are left begin with the first that does not fit. -/
def absorb (n : Nat) : List Nat → Nat × List Nat
  | [] => (n, [])
  | d :: ds => if n * 10 + d ≤ maxSignificand then absorb (n * 10 + d) ds else (n, d :: ds)

/-- Digits whose number fits are all taken up. -/
theorem absorb_of_le : ∀ (ds : List Nat) (n : Nat),
    ds.foldl (fun a d => a * 10 + d) n ≤ maxSignificand →
      absorb n ds = (ds.foldl (fun a d => a * 10 + d) n, [])
  | [], _, _ => rfl
  | d :: ds, n, h => by
    have hle : ∀ (ds : List Nat) (k : Nat), k ≤ ds.foldl (fun a d => a * 10 + d) k := by
      intro ds
      induction ds with
      | nil => exact fun k => Nat.le_refl k
      | cons e es ih => exact fun k => Nat.le_trans (by omega) (ih (k * 10 + e))
    rw [List.foldl_cons] at h ⊢
    rw [absorb, if_pos (Nat.le_trans (hle ds _) h), absorb_of_le ds _ h]

/-- The greatest exponent that is counted. -/
def maxExponent : Nat := 0x7FFFFFFF

/-- The binary64 number `significand * 10 ^ power`, with the exponent of the
numeral added to `power`; none when it is too large. -/
def scaled (t : Numeral) (significand : Nat) (power : Int) : Option Binary64 :=
  match t.exponent with
  | none => apply significand power
  | some (down, ds) =>
    let e := Decimal.value ds
    if maxExponent < e then
      if significand ≠ 0 ∧ down = false then none else some (.zero t.negative)
    else apply significand (if down then power - e else power + e)
where
  apply (n : Nat) (e : Int) : Option Binary64 :=
    ((Binary64.ofNat n).bind fun x => x.scale e).map (Binary64.withSign t.negative)

/-- The number that a numeral stands for; none when it is too large. -/
def value (t : Numeral) : Option Number :=
  let w := absorb 0 t.whole
  if t.fraction.isEmpty && t.exponent.isNone && w.2.isEmpty then
    if t.negative then
      if 0 < w.1 ∧ w.1 ≤ 0x8000000000000000 then some (.integer (-w.1))
      else (t.scaled w.1 0).map .double
    else some (.integer w.1)
  else
    let f := absorb w.1 t.fraction
    let power : Int := w.2.length - (t.fraction.length - f.2.length)
    (t.scaled f.1 power).map .double

/-- What is wrong where a numeral should stand. -/
inductive Flaw where
  /-- A character that cannot stand there. -/
  | bad
  /-- The text ends. -/
  | ended
  deriving DecidableEq, Repr

def isDigit (b : UInt8) : Bool := 48 ≤ b && b ≤ 57

def digitOf (b : UInt8) : Nat := b.toNat - 48

/-- The digits at the front, and what follows them. -/
def digits (s : List UInt8) : List Nat × List UInt8 :=
  ((s.takeWhile isDigit).map digitOf, s.dropWhile isDigit)

/-- The flaw where a digit is missing. -/
def missing (s : List UInt8) : Flaw :=
  if s.isEmpty then .ended else .bad

/-- The exponent at the front, if one begins there. -/
def readExponent : List UInt8 → Except Flaw (Option (Bool × List Nat) × List UInt8)
  | [] => .ok (none, [])
  | b :: s =>
    if b = 101 ∨ b = 69 then
      let s' := match s with
        | c :: r => if c = 43 ∨ c = 45 then r else s
        | [] => s
      let d := digits s'
      if d.1.isEmpty then .error (missing s') else .ok (some (s.head? == some 45, d.1), d.2)
    else .ok (none, b :: s)

/-- The digits after the point at the front, if there is one. -/
def readFraction : List UInt8 → Except Flaw (List Nat × List UInt8)
  | [] => .ok ([], [])
  | b :: s =>
    if b = 46 then
      let d := digits s
      if d.1.isEmpty then .error (missing s) else .ok d
    else .ok ([], b :: s)

/-- The digits before the point: a zero alone, or digits that do not begin with
a zero. -/
def readWhole : List UInt8 → Except Flaw (List Nat × List UInt8)
  | [] => .error .ended
  | b :: s =>
    if b = 48 then
      match s with
      | c :: _ => if isDigit c then .error .bad else .ok ([0], s)
      | [] => .ok ([0], [])
    else
      let d := digits (b :: s)
      if d.1.isEmpty then .error .bad else .ok d

/-- The numeral at the front, which begins with a sign or a digit, and what
follows it. -/
def read (s : List UInt8) : Except Flaw (Numeral × List UInt8) :=
  let negative := s.head? == some 45
  match readWhole (if negative then s.drop 1 else s) with
  | .error f => .error f
  | .ok (whole, s1) =>
    match readFraction s1 with
    | .error f => .error f
    | .ok (fraction, s2) =>
      match readExponent s2 with
      | .error f => .error f
      | .ok (exponent, s3) => .ok (⟨negative, whole, fraction, exponent⟩, s3)

end Numeral
end ProxyConsole
