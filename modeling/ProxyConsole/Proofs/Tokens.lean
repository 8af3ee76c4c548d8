/-
# Strings and numerals as they are written

The grammar of JSON below its values: blanks, strings with escapes of any kind,
and numerals without zeros in front. A string is read to the quote that ends it,
a numeral up to what cannot go on it, and what was read is what was written. That
the bytes of a string are UTF-8 the grammar leaves open, as the reader does.

Key definitions: `AreBlanks`, `StringBody.Written`, `Numeral.Written`,
`Numeral.Ends`.
Key theorems: `StringBody.read_of_written`, `StringBody.written_of_read`,
`Numeral.read_of_written`, `Numeral.written_of_read`.
-/
import Mathlib.Data.List.Basic
import ProxyConsole.Json.Outline

namespace ProxyConsole

/-! ### Blanks -/

/-- Nothing but blanks. -/
def AreBlanks (w : List UInt8) : Prop :=
  ∀ b ∈ w, isJsonBlank b = true

theorem areBlanks_nil : AreBlanks [] := by
  intro b hb
  cases hb

theorem AreBlanks.append {w w' : List UInt8} (h : AreBlanks w) (h' : AreBlanks w') :
    AreBlanks (w ++ w') := by
  intro b hb
  rcases List.mem_append.mp hb with hb | hb
  · exact h b hb
  · exact h' b hb

theorem skipBlanks_append {w : List UInt8} (h : AreBlanks w) (s : List UInt8) :
    skipBlanks (w ++ s) = skipBlanks s :=
  List.dropWhile_append_of_pos h

theorem skipBlanks_cons {b : UInt8} (h : isJsonBlank b = false) (s : List UInt8) :
    skipBlanks (b :: s) = b :: s :=
  List.dropWhile_cons_of_neg (by simp [h])

/-- What was skipped are blanks. -/
theorem exists_blanks (s : List UInt8) : ∃ w, AreBlanks w ∧ s = w ++ skipBlanks s :=
  ⟨s.takeWhile isJsonBlank, List.all_eq_true.mp List.all_takeWhile,
    List.takeWhile_append_dropWhile.symm⟩

theorem skipBlanks_skipBlanks (s : List UInt8) : skipBlanks (skipBlanks s) = skipBlanks s := by
  obtain ⟨w, hw, hs⟩ := exists_blanks s
  have h := skipBlanks_append hw (skipBlanks s)
  rw [← hs] at h
  exact h.symm

/-! ### Strings -/

namespace StringBody

/-- What may stand between the quotes of a string, with the quote that ends it. -/
inductive Written : List Piece → List UInt8 → Prop where
  | quote : Written [] [34]
  | plain {b ps s} : b ≠ 34 → b ≠ 92 → ¬ b < 0x20 → Written ps s →
      Written (.byte b :: ps) (b :: s)
  | short {e b ps s} : shortEscape e = some b → Written ps s →
      Written (.byte b :: ps) (92 :: e :: s)
  | unit {a b c d u ps s} : hexNumber [d, c, b, a] = some u → Written ps s →
      Written (.unit u :: ps) (92 :: 117 :: a :: b :: c :: d :: s)

theorem push_mk (p : Piece) (ps : List Piece) (stop : StringEnd) (s : List UInt8) :
    push p (⟨ps, stop⟩, s) = (⟨p :: ps, stop⟩, s) := rfl

/-- A string is read as it is written. -/
theorem read_of_written {ps : List Piece} {s : List UInt8} (h : Written ps s)
    (rest : List UInt8) : read (s ++ rest) = (⟨ps, .closed⟩, rest) := by
  unfold read
  induction h with
  | quote => rfl
  | plain h34 h92 hc _ ih =>
    rw [List.cons_append, scan, if_neg h34, if_neg h92, if_neg hc, ih, push_mk]
  | @short e b ps s he _ ih =>
    have hu : e ≠ 117 := by
      rintro rfl
      cases he
    rw [List.cons_append, List.cons_append, scan, if_neg (by decide), if_pos rfl, scan, if_neg hu,
      he]
    simp only [ih, push_mk]
  | unit hn _ ih =>
    simp [scan, hn, ih, push_mk]

/-- What has been read of an escape where a reader of a string stands. -/
def Mode.before : Mode → List UInt8
  | .plain => []
  | .escape => [92]
  | .hex got => 92 :: 117 :: got.reverse

/-- A string that is read to its quote is written for its pieces. -/
theorem written_of_scan {rest : List UInt8} : ∀ (s : List UInt8) (m : Mode) (t : StringBody),
    scan m s = (t, rest) → t.stop = .closed → (∀ got, m = .hex got → got.length ≤ 3) →
    ∃ u, s = u ++ rest ∧ Written t.pieces (m.before ++ u) := by
  intro s
  induction s with
  | nil =>
    intro m t h hc _
    cases m <;> (cases h; cases hc)
  | cons b s ih =>
    -- a piece in front of a string that is read on between pieces
    have piece {p : Piece} {t : StringBody} {before : List UInt8}
        (h : push p (scan .plain s) = (t, rest)) (hc : t.stop = .closed)
        (hp : ∀ ps u, Written ps u → Written (p :: ps) (before ++ b :: u)) :
        ∃ u, b :: s = u ++ rest ∧ Written t.pieces (before ++ u) := by
      cases h
      obtain ⟨u, hu, hw⟩ := ih .plain _ rfl hc (by rintro got ⟨⟩)
      exact ⟨b :: u, congrArg (b :: ·) hu, hp _ u hw⟩
    -- a byte that belongs to what comes behind it
    have on {m m' : Mode} {t : StringBody} (h : scan m' s = (t, rest)) (hc : t.stop = .closed)
        (hm : ∀ got, m' = .hex got → got.length ≤ 3) (hb : m'.before = m.before ++ [b]) :
        ∃ u, b :: s = u ++ rest ∧ Written t.pieces (m.before ++ u) := by
      obtain ⟨u, hu, hw⟩ := ih m' t h hc hm
      refine ⟨b :: u, congrArg (b :: ·) hu, ?_⟩
      rw [hb, List.append_assoc] at hw
      exact hw
    intro m t h hc hm
    cases m with
    | plain =>
      unfold scan at h
      split at h
      · next hb =>
        cases h
        exact ⟨[b], rfl, hb ▸ .quote⟩
      · next h34 =>
        split at h
        · next hb => exact on h hc (by rintro got ⟨⟩) (by rw [hb]; rfl)
        · next h92 =>
          split at h
          · cases h
            cases hc
          · next hlt => exact piece h hc fun ps u hw => .plain h34 h92 hlt hw
    | escape =>
      unfold scan at h
      split at h
      · next hb =>
        refine on h hc ?_ (by rw [hb]; rfl)
        rintro got ⟨⟩
        exact Nat.zero_le 3
      · split at h
        · next c hs => exact piece h hc fun ps u hw => .short hs hw
        · cases h
          cases hc
    | hex got =>
      unfold scan at h
      split at h
      · next hlt =>
        refine on h hc ?_ ?_
        · rintro got' ⟨⟩
          exact hlt
        · simp [Mode.before]
      · next hge =>
        split at h
        · next u hn =>
          have h3 := hm got rfl
          obtain ⟨d, c, a, rfl⟩ : ∃ d c a, got = [d, c, a] := by
            exact List.length_eq_three.mp (by omega)
          exact piece h hc fun ps v hw => .unit hn hw
        · cases h
          cases hc

theorem written_of_read {s rest : List UInt8} {t : StringBody} (h : read s = (t, rest))
    (hc : t.stop = .closed) : ∃ u, s = u ++ rest ∧ Written t.pieces u :=
  written_of_scan s .plain t h hc (by rintro got ⟨⟩)

end StringBody

/-! ### Numerals -/

namespace Numeral

/-- Digits as they are written, one at least. -/
structure AreDigits (ds : List Nat) (s : List UInt8) : Prop where
  ne_nil : s ≠ []
  digits : ∀ b ∈ s, isDigit b = true
  values : ds = s.map digitOf

/-- The digits before the point: a zero alone, or digits that do not begin with a zero. -/
inductive Whole : List Nat → List UInt8 → Prop where
  | zero : Whole [0] [48]
  | digits {ds s} : AreDigits ds s → s.head? ≠ some 48 → Whole ds s

/-- The point with the digits behind it, if there is one. -/
inductive Fraction : List Nat → List UInt8 → Prop where
  | absent : Fraction [] []
  | digits {ds s} : AreDigits ds s → Fraction ds (46 :: s)

/-- The exponent, if there is one. -/
inductive Exponent : Option (Bool × List Nat) → List UInt8 → Prop where
  | absent : Exponent none []
  | bare {e ds s} : e = 101 ∨ e = 69 → AreDigits ds s → Exponent (some (false, ds)) (e :: s)
  | plus {e ds s} : e = 101 ∨ e = 69 → AreDigits ds s → Exponent (some (false, ds)) (e :: 43 :: s)
  | minus {e ds s} : e = 101 ∨ e = 69 → AreDigits ds s → Exponent (some (true, ds)) (e :: 45 :: s)

/-- A numeral as it is written. -/
inductive Written : Numeral → List UInt8 → Prop where
  | plain {w f e a b c} : Whole w a → Fraction f b → Exponent e c →
      Written ⟨false, w, f, e⟩ (a ++ (b ++ c))
  | minus {w f e a b c} : Whole w a → Fraction f b → Exponent e c →
      Written ⟨true, w, f, e⟩ (45 :: (a ++ (b ++ c)))

/-- What cannot go on a numeral. -/
def Ends (rest : List UInt8) : Prop :=
  ∀ b ∈ rest.head?, isDigit b = false ∧ b ≠ 46 ∧ b ≠ 101 ∧ b ≠ 69

theorem digits_append {ds : List Nat} {s rest : List UInt8} (h : AreDigits ds s)
    (hr : ∀ b ∈ rest.head?, isDigit b = false) : digits (s ++ rest) = (ds, rest) := by
  have htake : rest.takeWhile isDigit = [] := by
    cases rest with
    | nil => rfl
    | cons b r => exact List.takeWhile_cons_of_neg (by simp [hr b rfl])
  have hdrop : rest.dropWhile isDigit = rest := by
    cases rest with
    | nil => rfl
    | cons b r => exact List.dropWhile_cons_of_neg (by simp [hr b rfl])
  unfold digits
  rw [List.takeWhile_append_of_pos h.digits, List.dropWhile_append_of_pos h.digits, htake, hdrop,
    List.append_nil, h.values]

theorem AreDigits.values_ne_nil {ds : List Nat} {s : List UInt8} (h : AreDigits ds s) :
    ds.isEmpty = false := by
  have hs := h.ne_nil
  rw [h.values]
  simpa using hs

/-- Digits that were read are digits as they are written. -/
theorem exists_digits {s : List UInt8} (h : (digits s).1.isEmpty = false) :
    ∃ u, s = u ++ (digits s).2 ∧ AreDigits (digits s).1 u := by
  refine ⟨s.takeWhile isDigit, List.takeWhile_append_dropWhile.symm, ?_,
    List.all_eq_true.mp List.all_takeWhile, rfl⟩
  simpa [digits] using h

theorem readWhole_append {w : List Nat} {a rest : List UInt8} (h : Whole w a)
    (hr : ∀ b ∈ rest.head?, isDigit b = false) : readWhole (a ++ rest) = .ok (w, rest) := by
  cases h with
  | zero =>
    cases rest with
    | nil => rfl
    | cons b r => simp [readWhole, hr b rfl]
  | digits hd h0 =>
    have hds := digits_append hd hr
    have hne := hd.values_ne_nil
    cases a with
    | nil => exact absurd rfl hd.ne_nil
    | cons b a =>
      have hb : b ≠ 48 := by simpa using h0
      rw [List.cons_append] at hds ⊢
      unfold readWhole
      simp only [if_neg hb, hds, hne, Bool.false_eq_true, ↓reduceIte]

theorem readFraction_append {f : List Nat} {b rest : List UInt8} (h : Fraction f b)
    (hr : ∀ c ∈ rest.head?, isDigit c = false ∧ c ≠ 46) :
    readFraction (b ++ rest) = .ok (f, rest) := by
  cases h with
  | absent =>
    cases rest with
    | nil => rfl
    | cons c r => simp [readFraction, (hr c rfl).2]
  | digits hd =>
    rw [List.cons_append, readFraction, if_pos rfl,
      digits_append hd fun c hc => (hr c hc).1]
    simp only [hd.values_ne_nil, Bool.false_eq_true, ↓reduceIte]

theorem AreDigits.head {ds : List Nat} {s : List UInt8} (h : AreDigits ds s) :
    ∃ b r, s = b :: r ∧ isDigit b = true := by
  cases s with
  | nil => exact absurd rfl h.ne_nil
  | cons b r => exact ⟨b, r, rfl, h.digits b (by simp)⟩

theorem ne_of_isDigit {b : UInt8} (h : isDigit b = true) :
    b ≠ 43 ∧ b ≠ 45 ∧ b ≠ 46 ∧ b ≠ 101 ∧ b ≠ 69 := by
  refine ⟨?_, ?_, ?_, ?_, ?_⟩
  all_goals rintro rfl; cases h

theorem readExponent_append {e : Option (Bool × List Nat)} {c rest : List UInt8}
    (h : Exponent e c) (hr : Ends rest) : readExponent (c ++ rest) = .ok (e, rest) := by
  have hn : ∀ b ∈ rest.head?, isDigit b = false := fun b hb => (hr b hb).1
  cases h with
  | absent =>
    cases rest with
    | nil => rfl
    | cons b r => simp [readExponent, (hr b rfl).2]
  | @bare x ds s hx hd =>
    -- a digit is no sign, so that nothing is dropped behind the letter
    obtain ⟨b, r, rfl, hb⟩ := hd.head
    obtain ⟨h43, h45, -⟩ := ne_of_isDigit hb
    have hds := digits_append hd hn
    rw [List.cons_append] at hds
    rw [List.cons_append, List.cons_append]
    unfold readExponent
    simp [hx, h43, h45, hds, hd.values_ne_nil]
  | plus hx hd =>
    rw [List.cons_append, List.cons_append, readExponent, if_pos hx]
    simp [digits_append hd hn, hd.values_ne_nil]
  | minus hx hd =>
    rw [List.cons_append, List.cons_append, readExponent, if_pos hx]
    simp [digits_append hd hn, hd.values_ne_nil]

theorem Exponent.head {e : Option (Bool × List Nat)} {c rest : List UInt8} (h : Exponent e c)
    (hr : Ends rest) : ∀ b ∈ (c ++ rest).head?, isDigit b = false ∧ b ≠ 46 := by
  have letter {x : UInt8} (hx : x = 101 ∨ x = 69) : isDigit x = false ∧ x ≠ 46 := by
    rcases hx with rfl | rfl
    · exact ⟨rfl, by decide⟩
    · exact ⟨rfl, by decide⟩
  intro b hb
  cases h with
  | absent => exact ⟨(hr b hb).1, (hr b hb).2.1⟩
  | bare hx =>
    cases hb
    exact letter hx
  | plus hx =>
    cases hb
    exact letter hx
  | minus hx =>
    cases hb
    exact letter hx

theorem Fraction.head {f : List Nat} {b rest : List UInt8} (h : Fraction f b)
    (hr : ∀ c ∈ rest.head?, isDigit c = false) : ∀ c ∈ (b ++ rest).head?, isDigit c = false := by
  intro c hc
  cases h with
  | absent => exact hr c hc
  | digits =>
    cases hc
    rfl

theorem Whole.head {w : List Nat} {a : List UInt8} (h : Whole w a) :
    ∃ b r, a = b :: r ∧ isDigit b = true := by
  cases h with
  | zero => exact ⟨48, [], rfl, rfl⟩
  | digits hd => exact hd.head

/-- A numeral begins with a sign or a digit. -/
theorem Written.head {n : Numeral} {s : List UInt8} (h : Written n s) :
    ∃ b r, s = b :: r ∧ (b = 45 ∨ isDigit b = true) := by
  cases h with
  | plain hw =>
    obtain ⟨b, r, rfl, hb⟩ := hw.head
    exact ⟨b, _, rfl, .inr hb⟩
  | minus => exact ⟨45, _, rfl, .inl rfl⟩

/-- The parts of a numeral are read one behind the other. -/
theorem read_parts {w f : List Nat} {e : Option (Bool × List Nat)} {a b c rest : List UInt8}
    (hw : Whole w a) (hf : Fraction f b) (he : Exponent e c) (hr : Ends rest) :
    readWhole (a ++ (b ++ (c ++ rest))) = .ok (w, b ++ (c ++ rest)) ∧
    readFraction (b ++ (c ++ rest)) = .ok (f, c ++ rest) ∧
    readExponent (c ++ rest) = .ok (e, rest) :=
  ⟨readWhole_append hw (hf.head fun x hx => (he.head hr x hx).1),
    readFraction_append hf (he.head hr), readExponent_append he hr⟩

/-- A numeral is read as it is written, up to what cannot go on it. -/
theorem read_of_written {n : Numeral} {s rest : List UInt8} (h : Written n s) (hr : Ends rest) :
    read (s ++ rest) = .ok (n, rest) := by
  cases h with
  | @plain w f e a b c hw hf he =>
    obtain ⟨h₁, h₂, h₃⟩ := read_parts hw hf he hr
    obtain ⟨x, r, rfl, hx⟩ := hw.head
    have h45 : x ≠ 45 := (ne_of_isDigit hx).2.1
    simp only [List.append_assoc, List.cons_append] at h₁ ⊢
    simp [read, h45, h₁, h₂, h₃]
  | @minus w f e a b c hw hf he =>
    obtain ⟨h₁, h₂, h₃⟩ := read_parts hw hf he hr
    simp only [List.append_assoc, List.cons_append]
    simp [read, h₁, h₂, h₃]

theorem whole_of_readWhole {s rest : List UInt8} {w : List Nat} (h : readWhole s = .ok (w, rest)) :
    ∃ a, s = a ++ rest ∧ Whole w a := by
  unfold readWhole at h
  split at h
  · cases h
  · next b r =>
    split at h
    · next hb =>
      subst hb
      split at h
      · split at h
        · cases h
        · cases h
          exact ⟨[48], rfl, .zero⟩
      · cases h
        exact ⟨[48], rfl, .zero⟩
    · next hb =>
      dsimp only at h
      split at h
      · cases h
      · next hne =>
        obtain ⟨u, hu, hd⟩ := exists_digits (by simpa using hne)
        cases h
        refine ⟨u, hu, .digits hd ?_⟩
        rintro h48
        cases u with
        | nil => cases h48
        | cons x u =>
          cases h48
          exact hb (List.cons.inj hu).1

theorem fraction_of_readFraction {s rest : List UInt8} {f : List Nat}
    (h : readFraction s = .ok (f, rest)) : ∃ b, s = b ++ rest ∧ Fraction f b := by
  unfold readFraction at h
  split at h
  · cases h
    exact ⟨[], rfl, .absent⟩
  · next b r =>
    split at h
    · next hb =>
      subst hb
      dsimp only at h
      split at h
      · cases h
      · next hne =>
        obtain ⟨u, hu, hd⟩ := exists_digits (by simpa using hne)
        have hds : digits r = (f, rest) := Except.ok.inj h
        rw [hds] at hu hd
        exact ⟨46 :: u, congrArg (46 :: ·) hu, .digits hd⟩
    · cases h
      exact ⟨[], rfl, .absent⟩

theorem exponent_of_readExponent {s rest : List UInt8} {e : Option (Bool × List Nat)}
    (h : readExponent s = .ok (e, rest)) : ∃ c, s = c ++ rest ∧ Exponent e c := by
  cases s with
  | nil =>
    cases h
    exact ⟨[], rfl, .absent⟩
  | cons x r =>
    by_cases hx : x = 101 ∨ x = 69
    · cases r with
      | nil => simp [readExponent, hx, digits] at h
      | cons y r =>
        by_cases hy : y = 43 ∨ y = 45
        · simp only [readExponent, if_pos hx, if_pos hy, List.head?_cons] at h
          split at h
          · cases h
          · next hne =>
            obtain ⟨u, hu, hd⟩ := exists_digits (by simpa using hne)
            cases h
            refine ⟨x :: y :: u, congrArg (x :: y :: ·) hu, ?_⟩
            rcases hy with rfl | rfl
            · exact .plus hx hd
            · exact .minus hx hd
        · have h45 : (some y == some (45 : UInt8)) = false := by
            simpa using fun h => hy (.inr h)
          simp only [readExponent, if_pos hx, if_neg hy, List.head?_cons, h45] at h
          split at h
          · cases h
          · next hne =>
            obtain ⟨u, hu, hd⟩ := exists_digits (by simpa using hne)
            cases h
            exact ⟨x :: u, congrArg (x :: ·) hu, .bare hx hd⟩
    · simp only [readExponent, if_neg hx] at h
      cases h
      exact ⟨[], rfl, .absent⟩

/-- What was read as a numeral is written for it. -/
theorem written_of_read {s rest : List UInt8} {n : Numeral} (h : read s = .ok (n, rest)) :
    ∃ u, s = u ++ rest ∧ Written n u := by
  unfold read at h
  dsimp only at h
  split at h
  · cases h
  · next w s₁ h₁ =>
    split at h
    · cases h
    · next f s₂ h₂ =>
      split at h
      · cases h
      · next e s₃ h₃ =>
        cases h
        obtain ⟨a, ha, hw⟩ := whole_of_readWhole h₁
        obtain ⟨b, rfl, hf⟩ := fraction_of_readFraction h₂
        obtain ⟨c, rfl, he⟩ := exponent_of_readExponent h₃
        cases s with
        | nil =>
          obtain ⟨x, r, rfl, -⟩ := hw.head
          cases ha
        | cons x r =>
          by_cases hx : x = 45
          · subst hx
            simp only [List.head?_cons, beq_self_eq_true, ↓reduceIte, List.drop_succ_cons,
              List.drop_zero] at ha
            refine ⟨45 :: (a ++ (b ++ c)), ?_, .minus hw hf he⟩
            rw [ha]
            simp
          · have h45 : (some x == some (45 : UInt8)) = false := by simpa using hx
            simp only [List.head?_cons, h45, Bool.false_eq_true, ↓reduceIte] at ha ⊢
            refine ⟨a ++ (b ++ c), ?_, .plain hw hf he⟩
            rw [ha]
            simp

end Numeral

end ProxyConsole
