/-
# What trimming takes away

Trimming takes blank characters from the ends of a text and nothing else: what stands
behind a character that is not blank stays where it is, and of a text that does not end
in a blank character nothing is taken from the end. A piece of a text that was cut is a
part of it, so a text is a piece of its own trimmed form only when nothing was taken.

Key definition: `Text.EndsBlank`.
Key theorems: `Text.trimEnd_append_cons`, `Text.trimEnd_eq_self`, `Text.sublist_of_mem_split`.
-/
import Mathlib.Data.List.TakeWhile
import ProxyConsole.Text.Blank
import ProxyConsole.Text.Split

namespace ProxyConsole
namespace Text

/-- A text without any character left is blank. -/
theorem trim_eq_nil {cs : List Char} : trim cs = [] ↔ ∀ c ∈ cs, isBlank c = true := by
  rw [trim, trimEnd, List.reverse_eq_nil_iff, List.dropWhile_eq_nil_iff]
  constructor
  · intro h
    refine List.dropWhile_eq_nil_iff.mp ?_
    cases hd : cs.dropWhile isBlank with
    | nil => rfl
    | cons c ds =>
      have hc : isBlank c = false := head?_dropWhile isBlank cs c (by rw [hd]; rfl)
      rw [h c (by simp [hd])] at hc
      cases hc
  · intro h c hc
    exact h c ((List.dropWhile_suffix isBlank).subset (List.mem_reverse.mp hc))

theorem isEmpty_trim (cs : List Char) : (trim cs).isEmpty = cs.all isBlank := by
  rw [Bool.eq_iff_iff, List.isEmpty_iff, trim_eq_nil, List.all_eq_true]

theorem dropWhile_append_cons {p : Char → Bool} {c : Char} (hc : p c = false) (cs ds : List Char) :
    (cs ++ c :: ds).dropWhile p = cs.dropWhile p ++ c :: ds := by
  rw [List.dropWhile_append, List.dropWhile_cons_of_neg (by simp [hc])]
  split
  · next he => rw [List.isEmpty_iff.mp he, List.nil_append]
  · rfl

theorem trimEnd_append_cons {c : Char} (hc : isBlank c = false) (cs ds : List Char) :
    trimEnd (cs ++ c :: ds) = cs ++ c :: trimEnd ds := by
  have hr : (cs ++ c :: ds).reverse = ds.reverse ++ c :: cs.reverse := by simp
  rw [trimEnd, hr, dropWhile_append_cons hc, trimEnd]
  simp

/-- The pieces of a text lose blank characters at its ends only. -/
theorem trim_join {sep : Char} (hc : isBlank sep = false) (p q r : List Char) :
    trim (join sep [p, q, r]) = join sep [p.dropWhile isBlank, q, trimEnd r] := by
  simp only [join, trim]
  rw [dropWhile_append_cons hc, trimEnd_append_cons hc, trimEnd_append_cons hc]

/-! ### The end of a text -/

theorem trimEnd_sublist (cs : List Char) : (trimEnd cs).Sublist cs := by
  have hd := (List.dropWhile_suffix (l := cs.reverse) isBlank).sublist.reverse
  rwa [List.reverse_reverse] at hd

theorem mem_of_mem_trimEnd {c : Char} {cs : List Char} (h : c ∈ trimEnd cs) : c ∈ cs :=
  (trimEnd_sublist cs).subset h

/-- The last character of a text is blank. -/
def EndsBlank (cs : List Char) : Prop :=
  ∃ c, cs.getLast? = some c ∧ isBlank c = true

/-- Nothing is taken from the end of a text exactly when it does not end in a blank
character. -/
theorem trimEnd_eq_self {cs : List Char} : trimEnd cs = cs ↔ ¬ EndsBlank cs := by
  have hlast : cs.getLast? = cs.reverse.head? := List.head?_reverse.symm
  constructor
  · rintro h ⟨c, hc, hb⟩
    have hd : cs.reverse.dropWhile isBlank = cs.reverse := by
      rw [← List.reverse_reverse (cs.reverse.dropWhile isBlank)]
      exact congrArg List.reverse h
    have hn := head?_dropWhile isBlank cs.reverse c (by rw [hd, ← hlast]; exact hc)
    rw [hb] at hn
    cases hn
  · intro h
    have hd : cs.reverse.dropWhile isBlank = cs.reverse := by
      refine dropWhile_eq_self fun c hc => ?_
      rw [← hlast] at hc
      exact Bool.eq_false_iff.mpr fun hb => h ⟨c, hc, hb⟩
    rw [trimEnd, hd, List.reverse_reverse]

theorem not_endsBlank_trimEnd (cs : List Char) : ¬ EndsBlank (trimEnd cs) :=
  trimEnd_eq_self.mp (trimEnd_trimEnd cs)

/-! ### Pieces -/

theorem sublist_join_of_mem (sep : Char) : ∀ {ps : List (List Char)} {p : List Char}, p ∈ ps →
    p.Sublist (join sep ps)
  | [q], p, hp => by
    rw [List.mem_singleton.mp hp]
    exact List.Sublist.refl q
  | q :: r :: ps, p, hp => by
    rw [join]
    rcases List.mem_cons.mp hp with rfl | hp
    · exact List.sublist_append_left p _
    · have ih := sublist_join_of_mem sep hp
      exact (ih.cons sep).trans (List.sublist_append_right q _)
    · simp

/-- A piece of a text that was cut is a part of it. -/
theorem sublist_of_mem_split {sep : Char} {cs p : List Char} (hp : p ∈ split sep cs) :
    p.Sublist cs := by
  have h := sublist_join_of_mem sep hp
  rwa [join_split] at h

end Text
end ProxyConsole
