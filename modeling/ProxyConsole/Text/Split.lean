/-
# Text cut at a character

`Text.split` cuts a text at every occurrence of one character and keeps the
empty pieces; `Text.join` puts the pieces together again, with the character
between them.

Key theorems: `Text.join_split`, `Text.split_join`.
-/

namespace ProxyConsole
namespace Text

/-- The pieces of a text between the occurrences of `sep`; always at least one. -/
def split (sep : Char) : List Char → List (List Char)
  | [] => [[]]
  | c :: cs =>
    if c = sep then [] :: split sep cs
    else match split sep cs with
      | [] => [[c]]
      | p :: ps => (c :: p) :: ps

/-- The pieces with `sep` between them. -/
def join (sep : Char) : List (List Char) → List Char
  | [] => []
  | [p] => p
  | p :: ps => p ++ sep :: join sep ps

theorem split_ne_nil (sep : Char) : ∀ cs : List Char, split sep cs ≠ []
  | [] => by simp [split]
  | c :: cs => by
    unfold split
    split
    · simp
    · split <;> simp

/-- Joining the pieces gives the text back. -/
theorem join_split (sep : Char) : ∀ cs : List Char, join sep (split sep cs) = cs
  | [] => rfl
  | c :: cs => by
    have ih := join_split sep cs
    unfold split
    by_cases hc : c = sep
    · rw [if_pos hc]
      cases h : split sep cs with
      | nil => exact absurd h (split_ne_nil sep cs)
      | cons p ps =>
        rw [h] at ih
        simp [join, ih, hc]
    · rw [if_neg hc]
      cases h : split sep cs with
      | nil => exact absurd h (split_ne_nil sep cs)
      | cons p ps =>
        rw [h] at ih
        cases ps with
        | nil => simpa [join] using ih
        | cons q qs => simp only [join, List.cons_append, ← ih]

/-- No piece holds the character that the text was cut at. -/
theorem not_mem_of_mem_split (sep : Char) : ∀ (cs : List Char), ∀ p ∈ split sep cs, sep ∉ p
  | [], p, hp => by simp [split] at hp; simp [hp]
  | c :: cs, p, hp => by
    have ih := not_mem_of_mem_split sep cs
    unfold split at hp
    by_cases hc : c = sep
    · rw [if_pos hc] at hp
      rcases List.mem_cons.1 hp with rfl | hp
      · simp
      · exact ih p hp
    · rw [if_neg hc] at hp
      cases h : split sep cs with
      | nil => exact absurd h (split_ne_nil sep cs)
      | cons q qs =>
        rw [h] at hp ih
        rcases List.mem_cons.1 hp with rfl | hp
        · simp only [List.mem_cons, not_or]
          exact ⟨fun e => hc e.symm, ih q (by simp)⟩
        · exact ih p (by simp [hp])

/-- A joined text holds the characters of its pieces. -/
theorem mem_join_of_mem (sep : Char) : ∀ (ps : List (List Char)) {p : List Char} {c : Char},
    p ∈ ps → c ∈ p → c ∈ join sep ps
  | [q], p, c, hp, hc => by
    rw [List.mem_singleton] at hp
    rwa [join, ← hp]
  | q :: r :: ps, p, c, hp, hc => by
    rw [join, List.mem_append, List.mem_cons]
    rcases List.mem_cons.1 hp with rfl | hp
    · exact .inl hc
    · exact .inr (.inr (mem_join_of_mem sep (r :: ps) hp hc))
    · simp

/-- A piece holds characters of the text that was cut. -/
theorem mem_of_mem_split {sep : Char} {cs p : List Char} {c : Char} (hp : p ∈ split sep cs)
    (hc : c ∈ p) : c ∈ cs := by
  rw [← join_split sep cs]
  exact mem_join_of_mem sep _ hp hc

theorem split_of_not_mem {sep : Char} : ∀ {cs : List Char}, sep ∉ cs → split sep cs = [cs]
  | [], _ => rfl
  | c :: cs, h => by
    simp only [List.mem_cons, not_or] at h
    unfold split
    rw [if_neg (fun e => h.1 e.symm), split_of_not_mem h.2]

theorem split_append {sep : Char} : ∀ {p : List Char} (cs : List Char), sep ∉ p →
    split sep (p ++ sep :: cs) = p :: split sep cs
  | [], cs, _ => by simp [split]
  | c :: p, cs, h => by
    simp only [List.mem_cons, not_or] at h
    rw [List.cons_append, split, if_neg (fun e => h.1 e.symm), split_append cs h.2]

/-- Cutting joined pieces gives the pieces, when none of them holds the character. -/
theorem split_join (sep : Char) : ∀ (ps : List (List Char)), ps ≠ [] → (∀ p ∈ ps, sep ∉ p) →
    split sep (join sep ps) = ps
  | [], h, _ => absurd rfl h
  | [p], _, h => split_of_not_mem (h p (by simp))
  | p :: q :: ps, _, h => by
    rw [join, split_append _ (h p (by simp)),
      split_join sep (q :: ps) (by simp) fun r hr => h r (by simp [hr])]
    simp

end Text
end ProxyConsole
