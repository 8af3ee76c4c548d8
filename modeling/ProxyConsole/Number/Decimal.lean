/-
# Decimal digits of a natural number

`Decimal.digits` lists the digits of a number, the most significant first and
without a leading zero; `Decimal.value` is the number that digits stand for.

Key theorems: `Decimal.value_digits`, `Decimal.digits_lt`, `Decimal.head?_digits`.
-/

namespace ProxyConsole
namespace Decimal

/-- The digits of a number, the most significant first. -/
def digits (n : Nat) : List Nat :=
  if n < 10 then [n] else digits (n / 10) ++ [n % 10]

/-- The number that digits stand for. -/
def value (ds : List Nat) : Nat :=
  ds.foldl (fun a d => a * 10 + d) 0

/-- The character of a digit. -/
def digitChar (d : Nat) : Char :=
  Char.ofNat (48 + d)

/-- The digit that a character stands for. -/
def digit? (c : Char) : Option Nat :=
  if '0' ≤ c ∧ c ≤ '9' then some (c.toNat - 48) else none

/-- A natural number in decimal. -/
def text (n : Nat) : List Char :=
  (digits n).map digitChar

/-- An integer in decimal, with a sign only when it is negative. -/
def intText : Int → List Char
  | .ofNat n => text n
  | .negSucc n => '-' :: text (n + 1)

/-- An integer in decimal, as a string. -/
def intString (i : Int) : String :=
  String.ofList (intText i)

/-- A natural number padded with zeros on the left to `width` digits. -/
def padded (width n : Nat) : List Char :=
  List.replicate (width - (text n).length) '0' ++ text n

theorem value_append_singleton (ds : List Nat) (d : Nat) : value (ds ++ [d]) = value ds * 10 + d := by
  simp [value, List.foldl_append]

/-- The digits of a number stand for it. -/
theorem value_digits (n : Nat) : value (digits n) = n := by
  fun_induction digits n with
  | case1 n h => simp [value]
  | case2 n h ih => rw [value_append_singleton, ih]; omega

/-- Every digit is below ten. -/
theorem digits_lt (n : Nat) : ∀ d ∈ digits n, d < 10 := by
  fun_induction digits n with
  | case1 n h => simpa using h
  | case2 n h ih =>
    intro d hd
    rcases List.mem_append.1 hd with hd | hd
    · exact ih d hd
    · simp only [List.mem_singleton] at hd; omega

theorem digits_ne_nil (n : Nat) : digits n ≠ [] := by
  unfold digits
  split <;> simp

/-- Only zero begins with the digit zero. -/
theorem head?_digits (n : Nat) (h : 0 < n) : ∀ d ∈ (digits n).head?, d ≠ 0 := by
  fun_induction digits n with
  | case1 n h => simpa using by omega
  | case2 n hn ih =>
    intro d hd
    cases hs : digits (n / 10) with
    | nil => exact absurd hs (digits_ne_nil _)
    | cons a l =>
      rw [hs] at hd ih
      exact ih (by omega) d (by simpa using hd)

end Decimal
end ProxyConsole
