/-
# Digits of base sixteen

A digit is written with a small letter or with a capital one, and read from both.

Key definitions: `Hex.lower`, `Hex.upper`, `Hex.value?`.
Key theorem: `Hex.value?_upper`.
-/

namespace ProxyConsole
namespace Hex

/-- A digit; the letter of ten comes ten places behind `letters`. -/
def digit (letters d : Nat) : Char :=
  Char.ofNat ((if d < 10 then 48 else letters) + d)

/-- A digit with a small letter. -/
def lower (d : Nat) : Char := digit 87 d

/-- A digit with a capital letter. -/
def upper (d : Nat) : Char := digit 55 d

/-- The value of the digit that a code stands for. -/
def value? (code : Nat) : Option Nat :=
  if 48 ≤ code ∧ code ≤ 57 then some (code - 48)
  else if 97 ≤ code ∧ code ≤ 102 then some (code - 87)
  else if 65 ≤ code ∧ code ≤ 70 then some (code - 55)
  else none

theorem value?_upper : ∀ d < 16, value? (upper d).toNat = some d := by
  decide

theorem upper_ascii : ∀ d < 16, (upper d).toNat < 0x80 := by
  decide

end Hex
end ProxyConsole
