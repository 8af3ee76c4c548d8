/-
# Host names in ASCII

A label with characters outside ASCII is written as its characters of ASCII,
a hyphen, and a number for every other character, from the least on: the steps
from the one before it, counted over all places. Numbers are written to the
base 36 with digits whose bounds follow the size of the numbers.

Key definitions: `Punycode.encode`, `Punycode.decode`.
-/
import ProxyConsole.Number.Decimal

namespace ProxyConsole
namespace Punycode

/-- A digit of base 36. -/
def digit (d : Nat) : Char :=
  if d < 26 then Char.ofNat (97 + d) else Char.ofNat (22 + d)

/-- The least digit that does not end a number at a place. -/
def threshold (k bias : Nat) : Nat :=
  if k ≤ bias + 1 then 1 else if bias + 26 ≤ k then 26 else k - bias

theorem threshold_pos (k bias : Nat) : 1 ≤ threshold k bias := by
  unfold threshold
  split
  · omega
  · split <;> omega

/-- Divides by 35 while the number is large; counts the divisions in steps of 36. -/
def settle (delta k : Nat) : Nat :=
  if h : 455 < delta then settle (delta / 35) (k + 36)
  else k + 36 * delta / (delta + 38)
termination_by delta
decreasing_by exact Nat.div_lt_self (by omega) (by omega)

/-- The bounds of the next number. -/
def adapt (delta places : Nat) (first : Bool) : Nat :=
  let d := if first then delta / 700 else delta / 2
  settle (d + d / places) 0

/-- The digits of a number. -/
def digits (bias k q : Nat) : List Char :=
  let t := threshold k bias
  if h : q < t then [digit q]
  else digit (t + (q - t) % (36 - t)) :: digits bias (k + 36) ((q - t) / (36 - t))
termination_by q
decreasing_by
  have ht := threshold_pos k bias
  exact Nat.lt_of_le_of_lt (Nat.div_le_self _ _) (by omega)

/-- What has been written, and the number that comes next. -/
structure Progress where
  out : List Char
  delta : Nat
  bias : Nat
  written : Nat

/-- Passes a character of the label while the character `m` is written. -/
def pass (basic m : Nat) (p : Progress) (c : Char) : Progress :=
  if c.toNat < m then { p with delta := p.delta + 1 }
  else if c.toNat = m then
    { out := p.out ++ digits p.bias 36 p.delta
      delta := 0
      bias := adapt p.delta (p.written + 1) (p.written == basic)
      written := p.written + 1 }
  else p

/-- Writes the characters with the given codes, which ascend from `next`. -/
def write (label : List Char) (basic : Nat) : List Nat → Nat → Progress → Progress
  | [], _, p => p
  | m :: ms, next, p =>
    let p := label.foldl (pass basic m) { p with delta := p.delta + (m - next) * (p.written + 1) }
    write label basic ms (m + 1) { p with delta := p.delta + 1 }

/-- A number put in its place among ascending ones. -/
def place (x : Nat) : List Nat → List Nat
  | [] => [x]
  | y :: ys => if x < y then x :: y :: ys else if x = y then y :: ys else y :: place x ys

/-- A label with its characters outside ASCII as numbers. -/
def encode (label : List Char) : List Char :=
  let basic := label.filter fun c => c.toNat < 0x80
  let codes := (label.filter fun c => 0x80 ≤ c.toNat).foldr (fun c ns => place c.toNat ns) []
  basic ++ (if basic.isEmpty then [] else ['-']) ++
    (write label basic.length codes 128 ⟨[], 0, 72, basic.length⟩).out

/-! ### Reading -/

/-- The value of a digit of base 36. -/
def value? (c : Char) : Option Nat :=
  if c.isLower then some (c.toNat - 97)
  else if c.isDigit then some (c.toNat - 22)
  else none

/-- The weight from which on a digit is too great for any place of a label. -/
def maxWeight : Nat := 0x100000000

/-- The number at the front of a text, when `n` was read of it and the next digit
weighs `w`, and the text behind it. -/
def number? (bias : Nat) : Nat → Nat → Nat → List Char → Option (Nat × List Char)
  | _, _, _, [] => none
  | k, w, n, c :: cs =>
    match value? c with
    | none => none
    | some d =>
      let t := threshold k bias
      if d < t then some (n + d * w, cs)
      else if maxWeight ≤ w * (36 - t) then none
      else number? bias (k + 36) (w * (36 - t)) (n + d * w) cs

/-- A number takes at least one digit. -/
theorem length_number?_lt {bias : Nat} : ∀ {cs : List Char} {k w n : Nat} {r : Nat × List Char},
    number? bias k w n cs = some r → r.2.length < cs.length
  | [], _, _, _, _, h => by simp [number?] at h
  | c :: cs, k, w, n, r, h => by
    rw [number?] at h
    split at h
    · simp at h
    · dsimp only at h
      split at h
      · rw [← Option.some.inj h]
        simp
      · split at h
        · simp at h
        · have := length_number?_lt h
          simp only [List.length_cons]
          omega

/-- Puts the characters that the numbers of a text stand for among those that were
read before; the last one put there has the number `code` and stands before `place`. -/
def insert (bias code place : Nat) (out cs : List Char) : Option (List Char) :=
  match cs with
  | [] => some out
  | c :: cs =>
    match h : number? bias 36 1 0 (c :: cs) with
    | none => none
    | some (delta, rest) =>
      let places := out.length + 1
      let next := code + (place + delta) / places
      let i := (place + delta) % places
      if next.isValidChar then
        insert (adapt delta places (place == 0)) next (i + 1) (out.insertIdx i (Char.ofNat next)) rest
      else none
termination_by cs.length
decreasing_by exact length_number?_lt h

/-- The label whose characters outside ASCII are written as numbers behind the last
hyphen. -/
def decode (cs : List Char) : Option (List Char) :=
  let basic := ((cs.reverse.dropWhile (· ≠ '-')).drop 1).reverse
  let numbers := if basic.isEmpty then cs else cs.drop (basic.length + 1)
  if basic.all fun c => c.toNat < 0x80 then insert 72 128 0 basic numbers else none

end Punycode
end ProxyConsole
