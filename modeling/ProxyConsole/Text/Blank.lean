/-
# Blank characters and trimmed text

A character is blank when it has the Unicode property `White_Space`; trimming
drops the blank characters at both ends of a text. Zero-width characters and
the byte order mark are not blank.

Key definitions: `Text.isBlank`, `Text.trim`, `Text.trimmed`.
Key theorem: `Text.trim_trim`.
-/

namespace ProxyConsole
namespace Text

/-- The characters with the property `White_Space`. -/
def isBlank (c : Char) : Bool :=
  let n := c.toNat
  (9 ≤ n && n ≤ 13) || n == 0x20 || n == 0x85 || n == 0xA0 || n == 0x1680 ||
    (0x2000 ≤ n && n ≤ 0x200A) || n == 0x2028 || n == 0x2029 || n == 0x202F ||
    n == 0x205F || n == 0x3000

/-- The text without the blank characters at its end. -/
def trimEnd (cs : List Char) : List Char :=
  (cs.reverse.dropWhile isBlank).reverse

/-- The text without the blank characters at either end. -/
def trim (cs : List Char) : List Char :=
  trimEnd (cs.dropWhile isBlank)

/-- A string without the blank characters at either end. -/
def trimmed (s : String) : String :=
  String.ofList (trim s.toList)

/-- Nothing but blank characters. -/
def isBlankText (s : String) : Bool :=
  s.toList.all isBlank

theorem dropWhile_eq_self {p : Char → Bool} :
    ∀ {cs : List Char}, (∀ c ∈ cs.head?, p c = false) → cs.dropWhile p = cs
  | [], _ => rfl
  | c :: cs, h => by simp [h c (by simp)]

theorem head?_dropWhile (p : Char → Bool) : ∀ (cs : List Char), ∀ c ∈ (cs.dropWhile p).head?, p c = false
  | [], _, h => by simp at h
  | a :: cs, c, h => by
    rw [List.dropWhile_cons] at h
    split at h
    · exact head?_dropWhile p cs c h
    · next ha =>
      simp only [List.head?_cons, Option.mem_def, Option.some.injEq] at h
      subst h
      simpa using ha

/-- Dropping from the end keeps the first character of what is left. -/
theorem head?_trimEnd (cs : List Char) : ∀ c ∈ (trimEnd cs).head?, cs.head? = some c := by
  intro c hc
  have hs : (cs.reverse.dropWhile isBlank).reverse <+: cs := by
    have := List.dropWhile_suffix isBlank (l := cs.reverse)
    rw [← List.reverse_prefix] at this
    simpa using this
  obtain ⟨t, ht⟩ := hs
  unfold trimEnd at hc
  rw [← ht]
  cases hr : (cs.reverse.dropWhile isBlank).reverse with
  | nil => rw [hr] at hc; simp at hc
  | cons a l => rw [hr] at hc; simpa using hc

/-- A trimmed text does not begin with a blank character. -/
theorem head?_trim (cs : List Char) : ∀ c ∈ (trim cs).head?, isBlank c = false := by
  intro c hc
  exact head?_dropWhile isBlank cs c (head?_trimEnd _ c hc)

theorem trimEnd_trimEnd (cs : List Char) : trimEnd (trimEnd cs) = trimEnd cs := by
  unfold trimEnd
  rw [List.reverse_reverse, dropWhile_eq_self (head?_dropWhile isBlank _)]

/-- A text is trimmed once and for all. -/
theorem trim_trim (cs : List Char) : trim (trim cs) = trim cs := by
  have h : (trim cs).dropWhile isBlank = trim cs := dropWhile_eq_self (head?_trim cs)
  show trimEnd ((trim cs).dropWhile isBlank) = trim cs
  rw [h]
  exact trimEnd_trimEnd _

end Text
end ProxyConsole
