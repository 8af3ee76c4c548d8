/-
# Finite binary64 numbers in exact arithmetic

A finite binary64 number is a sign, a significand and a power of two. Ratios of
natural numbers are rounded to the nearest of them, a tie to the even
significand; products and quotients are exact ratios that are rounded once. All
arithmetic is on `Nat` and `Int`, so it computes in the kernel.

Key definitions: `Binary64.ofRatio`, `Binary64.mul`, `Binary64.div`, `Binary64.scale`.
-/

namespace ProxyConsole

/-- The quotient rounded to the nearest natural number, a tie to the even one. -/
def roundDiv (num den : Nat) : Nat :=
  let q := num / den
  let r := num % den
  if 2 * r < den then q
  else if den < 2 * r then q + 1
  else if q % 2 = 0 then q else q + 1

/-- The number `significand * 2 ^ exponent`, negated when `negative`; a zero
keeps its sign. -/
structure Binary64 where
  negative : Bool
  significand : Nat
  exponent : Int
  deriving DecidableEq, Repr

namespace Binary64

/-- The least exponent. -/
def minExponent : Int := -1074

/-- The greatest exponent. -/
def maxExponent : Int := 971

/-- Zero with a sign. -/
def zero (negative : Bool) : Binary64 := ⟨negative, 0, minExponent⟩

def isZero (x : Binary64) : Bool := x.significand == 0

/-- A ratio times a power of two, as a ratio. -/
def shift (num den : Nat) (e : Int) : Nat × Nat :=
  if 0 ≤ e then (num * Nat.pow 2 e.toNat, den) else (num, den * Nat.pow 2 (-e).toNat)

/-- The exponent at which the significand of a positive ratio has 53 bits, or
the least exponent. -/
def exponentOf (num den : Nat) : Int :=
  let e := (num.log2 : Int) - den.log2 - 53
  let s := shift num den (-e)
  max (if 0x20000000000000 ≤ s.1 / s.2 then e + 1 else e) minExponent

/-- The number nearest to `num / den`, a tie to the even significand; none when
it is too large. -/
def ofRatio (negative : Bool) (num den : Nat) : Option Binary64 :=
  if num = 0 then some (zero negative)
  else
    let e := exponentOf num den
    let s := shift num den (-e)
    let m := roundDiv s.1 s.2
    let x : Binary64 :=
      if m = 0x20000000000000 then ⟨negative, 0x10000000000000, e + 1⟩ else ⟨negative, m, e⟩
    if maxExponent < x.exponent then none else some x

/-- The natural number nearest to `n` that is a binary64 number. -/
def ofNat (n : Nat) : Option Binary64 :=
  ofRatio false n 1

/-- The rounded product. -/
def mul (x y : Binary64) : Option Binary64 :=
  let s := shift (x.significand * y.significand) 1 (x.exponent + y.exponent)
  ofRatio (x.negative != y.negative) s.1 s.2

/-- The rounded quotient by a number that is not zero. -/
def div (x y : Binary64) : Option Binary64 :=
  let s := shift x.significand y.significand (x.exponent - y.exponent)
  ofRatio (x.negative != y.negative) s.1 s.2

/-- The number nearest to a power of ten up to `10 ^ 308`. -/
def powerOfTen (k : Nat) : Binary64 :=
  (ofNat (Nat.pow 10 k)).getD (zero false)

/-- `x * 10 ^ e`, by one rounded multiplication or by rounded divisions of at
most `10 ^ 308` each; none when it is too large. -/
def scale (x : Binary64) (e : Int) : Option Binary64 :=
  if 0 ≤ e then
    if e ≤ 308 then x.mul (powerOfTen e.toNat)
    else if x.isZero then some x else none
  else if -308 ≤ e then x.div (powerOfTen (-e).toNat)
  else if x.isZero then some x
  else
    match x.div (powerOfTen 308) with
    | some y => scale y (e + 308)
    | none => none
termination_by (-e).toNat
decreasing_by omega

/-- The number with the given sign. -/
def withSign (negative : Bool) (x : Binary64) : Binary64 :=
  { x with negative }

end Binary64
end ProxyConsole
