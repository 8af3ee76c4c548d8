/-
# Base64 in the alphabet for URLs, without padding

Four symbols stand for three bytes; a last group of two or three symbols stands
for one or two bytes, and the bits it has left over are zero. Decoding reports
the first character outside the alphabet, except that one behind the last
complete group is seen first when it is alone there.

A header has another alphabet, which differs in two symbols, and has padding.

Key definitions: `Base64Url.encode`, `Base64Url.decode`, `Base64Url.padded`.
Key theorem: `Base64Url.bytesOf_numbersOf`.
-/
import ProxyConsole.Number.Decimal

namespace ProxyConsole
namespace Base64Url

/-- The symbol of a number below 64. -/
def symbol (n : Nat) : UInt8 :=
  if n < 26 then UInt8.ofNat (65 + n)
  else if n < 52 then UInt8.ofNat (71 + n)
  else if n < 62 then UInt8.ofNat (n - 4)
  else if n = 62 then 45
  else 95

/-- The number of a symbol. -/
def number? (b : UInt8) : Option Nat :=
  let n := b.toNat
  if 65 ≤ n ∧ n ≤ 90 then some (n - 65)
  else if 97 ≤ n ∧ n ≤ 122 then some (n - 71)
  else if 48 ≤ n ∧ n ≤ 57 then some (n + 4)
  else if n = 45 then some 62
  else if n = 95 then some 63
  else none

theorem number?_symbol : ∀ n : Nat, n < 64 → number? (symbol n) = some n := by decide

/-- The numbers of the symbols for some bytes. -/
def numbersOf : List UInt8 → List Nat
  | [] => []
  | [a] => [a.toNat / 4, a.toNat % 4 * 16]
  | [a, b] => [a.toNat / 4, a.toNat % 4 * 16 + b.toNat / 16, b.toNat % 16 * 4]
  | a :: b :: c :: bs =>
    a.toNat / 4 :: (a.toNat % 4 * 16 + b.toNat / 16) :: (b.toNat % 16 * 4 + c.toNat / 64) ::
      c.toNat % 64 :: numbersOf bs

/-- The bytes for the numbers of some symbols; the bits left over are dropped. -/
def bytesOf : List Nat → List UInt8
  | a :: b :: c :: d :: ns =>
    UInt8.ofNat (a * 4 + b / 16) :: UInt8.ofNat (b % 16 * 16 + c / 4) ::
      UInt8.ofNat (c % 4 * 64 + d) :: bytesOf ns
  | [a, b, c] => [UInt8.ofNat (a * 4 + b / 16), UInt8.ofNat (b % 16 * 16 + c / 4)]
  | [a, b] => [UInt8.ofNat (a * 4 + b / 16)]
  | _ => []

/-- The bits that a last group of symbols has left over. -/
def leftOver : List Nat → Nat
  | _ :: _ :: _ :: _ :: ns => leftOver ns
  | [_, _, c] => c % 4
  | [_, b] => b % 16
  | _ => 0

/-- The symbols for some bytes. -/
def encode (bs : List UInt8) : List UInt8 :=
  (numbersOf bs).map symbol

/-- The symbol of a number below 64 as a character. -/
def symbolChar (n : Nat) : Char :=
  Char.ofNat (symbol n).toNat

/-- The text for some bytes. -/
def text (bs : List UInt8) : List Char :=
  (numbersOf bs).map symbolChar

/-- The text for some bytes in the alphabet for headers, with padding that makes the last
group a whole one. -/
def padded (bs : List UInt8) : List Char :=
  let cs := (text bs).map fun c => if c = '-' then '+' else if c = '_' then '/' else c
  cs ++ List.replicate ((4 - cs.length % 4) % 4) '='

/-- Why a text is not Base64. -/
inductive Flaw where
  /-- A byte that is no symbol. -/
  | badSymbol (b : UInt8) (offset : Nat)
  /-- A last symbol with bits left over. -/
  | badLast (b : UInt8) (offset : Nat)
  /-- A single symbol in the last group. -/
  | badLength (length : Nat)
  deriving DecidableEq, Repr

namespace Flaw

def message : Flaw → String
  | badSymbol b offset =>
    "Invalid symbol " ++ Decimal.intString b.toNat ++ ", offset " ++ Decimal.intString offset ++ "."
  | badLast b offset =>
    "Invalid last symbol " ++ Decimal.intString b.toNat ++ ", offset " ++
      Decimal.intString offset ++ "."
  | badLength length => "Invalid input length: " ++ Decimal.intString length

end Flaw

/-- The numbers of symbols, or the first byte that is none; `offset` bytes stand
before them. -/
def numbers (offset : Nat) : List UInt8 → Except Flaw (List Nat)
  | [] => .ok []
  | b :: bs => match number? b with
    | none => .error (.badSymbol b offset)
    | some n => (numbers (offset + 1) bs).map (n :: ·)

/-- A byte alone behind the last complete group that is no symbol. -/
def loneFlaw (bs : List UInt8) : Option Flaw :=
  if bs.length % 4 = 1 then
    match bs.getLast? with
    | some b => if (number? b).isNone then some (.badSymbol b (bs.length - 1)) else none
    | none => none
  else none

/-- What is wrong with the last group of symbols. -/
def lastFlaw (bs : List UInt8) (ns : List Nat) : Option Flaw :=
  if bs.length % 4 = 1 then some (.badLength bs.length)
  else if leftOver ns ≠ 0 then bs.getLast?.map fun b => .badLast b (bs.length - 1)
  else none

/-- The bytes that symbols stand for. -/
def decode (bs : List UInt8) : Except Flaw (List UInt8) :=
  match loneFlaw bs with
  | some f => .error f
  | none => match numbers 0 bs with
    | .error f => .error f
    | .ok ns => match lastFlaw bs ns with
      | some f => .error f
      | none => .ok (bytesOf ns)

theorem ofNat_of_toNat_eq {a : UInt8} {n : Nat} (h : n = a.toNat) : UInt8.ofNat n = a := by
  rw [h, UInt8.ofNat_toNat]

/-- The numbers for some bytes stand for these bytes. -/
theorem bytesOf_numbersOf : ∀ bs : List UInt8, bytesOf (numbersOf bs) = bs
  | [] => rfl
  | [a] => by
    simp only [numbersOf, bytesOf]
    rw [ofNat_of_toNat_eq (a := a) (by omega)]
  | [a, b] => by
    have := a.toNat_lt
    have := b.toNat_lt
    simp only [numbersOf, bytesOf]
    rw [ofNat_of_toNat_eq (a := a) (by omega), ofNat_of_toNat_eq (a := b) (by omega)]
  | a :: b :: c :: bs => by
    have := a.toNat_lt
    have := b.toNat_lt
    have := c.toNat_lt
    simp only [numbersOf, bytesOf]
    rw [ofNat_of_toNat_eq (a := a) (by omega), ofNat_of_toNat_eq (a := b) (by omega),
      ofNat_of_toNat_eq (a := c) (by omega), bytesOf_numbersOf bs]

end Base64Url
end ProxyConsole
