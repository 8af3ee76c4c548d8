/-
# The shortest decimal that reads back

The decimals that round to a binary64 number fill an interval around it, ends
included when its significand is even. Of the decimals with one digit, then
two, and so on, the two neighbours of the number are tried; the first count
of digits with a neighbour in the interval wins; of two neighbours the nearer,
and of two as near the even one.

How the digits are laid out is `Layout`: which powers of ten are written in
full, and the shape of the exponent otherwise.

Key definitions: `Shortest.digits`, `Layout.write`, `Binary64.text`.
-/
import ProxyConsole.Number.Binary64
import ProxyConsole.Number.Decimal

namespace ProxyConsole
namespace Shortest

/-- A positive number and the interval of what rounds to it, as numerators over
one denominator. -/
structure Interval where
  low : Nat
  mid : Nat
  high : Nat
  den : Nat
  closed : Bool
  deriving Repr

/-- The interval of `m * 2 ^ q`: half a step on either side, a quarter below
when the step below is half as wide. -/
def intervalOf (m : Nat) (q : Int) : Interval :=
  let below := if m = 0x10000000000000 ∧ Binary64.minExponent < q then 1 else 2
  let s := Binary64.shift 1 1 (q - 2)
  ⟨(4 * m - below) * s.1, 4 * m * s.1, (4 * m + 2) * s.1, s.2, m % 2 == 0⟩

/-- Whether `a / b` lies in the interval. -/
def Interval.contains (i : Interval) (a b : Nat) : Bool :=
  if i.closed then i.low * b ≤ a * i.den && a * i.den ≤ i.high * b
  else i.low * b < a * i.den && a * i.den < i.high * b

/-- The power of ten of the first digit of `num / den`. -/
def magnitude (num den : Nat) : Int :=
  if den ≤ num then ((Decimal.digits (num / den)).length : Int) - 1
  else -((Decimal.digits ((den + num - 1) / num - 1)).length : Int)

/-- The neighbours of the number with `n` digits: the digits of the one that
lies in the interval, the nearer if both do (the even one if both are as near),
and the power of ten of the last. -/
def candidate (i : Interval) (n : Nat) : Option (Nat × Int) :=
  let k := magnitude i.mid i.den + 1 - n
  let up := Nat.pow 10 k.toNat
  let down := Nat.pow 10 (-k).toNat
  let d := i.mid * down / (i.den * up)
  let low := i.contains (d * up) down
  let high := i.contains ((d + 1) * up) down
  let twice := 2 * (i.mid * down)
  let half := (2 * d + 1) * (i.den * up)
  if low && (!high || twice < half || (twice == half && d % 2 == 0)) then some (d, k)
  else if high then some (if d + 1 = Nat.pow 10 n then (1, k + n) else (d + 1, k))
  else none

/-- The shortest digits that read back, as a number and the power of ten of its
last digit; seventeen digits always do. -/
def digits (m : Nat) (q : Int) : Nat × Int :=
  let i := intervalOf m q
  ((List.range 17).findSome? fun n => candidate i (n + 1)).getD (m, 0)

end Shortest

/-- Where a decimal is written in full and how its exponent looks otherwise. -/
structure Layout where
  /-- The least power of ten of a first digit that is written in full. -/
  leastFull : Int
  /-- The greatest power of ten of a first digit that is written in full. -/
  greatestFull : Int
  /-- The least count of digits in an exponent. -/
  exponentWidth : Nat

namespace Layout

/-- The digits `ds`, the first of them at the power `e` of ten. -/
def write (l : Layout) (negative : Bool) (ds : List Nat) (e : Int) : List Char :=
  let cs := ds.map Decimal.digitChar
  let sign := if negative then ['-'] else []
  if l.leastFull ≤ e ∧ e ≤ l.greatestFull then
    if e < 0 then sign ++ '0' :: '.' :: (List.replicate ((-e).toNat - 1) '0' ++ cs)
    else
      let whole := cs.take (e.toNat + 1)
      let rest := cs.drop (e.toNat + 1)
      sign ++ whole ++ List.replicate (e.toNat + 1 - whole.length) '0' ++
        '.' :: (if rest.isEmpty then ['0'] else rest)
  else
    sign ++ cs.take 1 ++ (if cs.length ≤ 1 then [] else '.' :: cs.drop 1) ++
      'e' :: (if e < 0 then '-' else '+') :: Decimal.padded l.exponentWidth e.natAbs

end Layout

/-- A whole number keeps `.0`; first digits from `10 ^ -5` to `10 ^ 15` are
written in full; an exponent has a sign and at least two digits. -/
def plainLayout : Layout := ⟨-5, 15, 2⟩

/-- The shortest text of a binary64 number that reads back. -/
def Binary64.text (x : Binary64) : List Char :=
  if x.isZero then plainLayout.write x.negative [0] 0
  else
    let d := Shortest.digits x.significand x.exponent
    let ds := Decimal.digits d.1
    plainLayout.write x.negative ds (d.2 + ds.length - 1)

end ProxyConsole
