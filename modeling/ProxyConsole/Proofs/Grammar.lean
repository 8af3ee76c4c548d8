/-
# The reader of outlines reads the grammar of JSON

A text is written for an outline when it is what the grammar of JSON allows for
it. The reader finds the outline of every text that is written, up to where the
text ends; and where it finds an outline that nothing is wrong with, the text is
one that is written for it. So a whole text is read without a flaw when it is a
text of JSON, and at no other time.

Values, items and members are read together, within a number of steps, and each
step takes a byte at least. What is shown of `n` steps for all three of them is
shown of one step more.

Key definitions: `Outline.Written`, `Outline.Padded`.
Key theorems: `Outline.readValue_of_written`, `Outline.written_of_readValue`,
`Outline.read_iff_padded`, `Decode.document_of_padded`.
-/
import ProxyConsole.Json.Decode
import ProxyConsole.Proofs.Tokens

namespace ProxyConsole
namespace Outline

mutual

/-- A value as it is written. -/
inductive Written : Outline → List UInt8 → Prop where
  | null : Written (.leaf .null) [110, 117, 108, 108]
  | yes : Written (.leaf (.bool true)) [116, 114, 117, 101]
  | no : Written (.leaf (.bool false)) [102, 97, 108, 115, 101]
  | number {n s} : Numeral.Written n s → Written (.leaf (.number n)) s
  | string {ps s} : StringBody.Written ps s → Written (.leaf (.string ⟨ps, .closed⟩)) (34 :: s)
  | emptyArray {w} : AreBlanks w → Written (.array [] .closed) (91 :: (w ++ [93]))
  | array {os s} : WrittenItems os s → Written (.array os .closed) (91 :: (s ++ [93]))
  | emptyObject {w} : AreBlanks w → Written (.object [] .closed) (123 :: (w ++ [125]))
  | object {ms s} : WrittenMembers ms s → Written (.object ms .closed) (123 :: (s ++ [125]))

/-- A value with blanks around it. -/
inductive Padded : Outline → List UInt8 → Prop where
  | mk {w o s w'} : AreBlanks w → Written o s → AreBlanks w' → Padded o (w ++ (s ++ w'))

/-- Values with commas between them. -/
inductive WrittenItems : List Outline → List UInt8 → Prop where
  | one {o s} : Padded o s → WrittenItems [o] s
  | more {o s os t} : Padded o s → WrittenItems os t → WrittenItems (o :: os) (s ++ 44 :: t)

/-- Names, each with a colon and its value, with commas between them. -/
inductive WrittenMembers : List (StringBody × Outline) → List UInt8 → Prop where
  | one {w ps k w' o s} : AreBlanks w → StringBody.Written ps k → AreBlanks w' → Padded o s →
      WrittenMembers [(⟨ps, .closed⟩, o)] (w ++ 34 :: (k ++ (w' ++ 58 :: s)))
  | more {w ps k w' o s ms t} : AreBlanks w → StringBody.Written ps k → AreBlanks w' →
      Padded o s → WrittenMembers ms t →
      WrittenMembers ((⟨ps, .closed⟩, o) :: ms) (w ++ 34 :: (k ++ (w' ++ 58 :: (s ++ 44 :: t))))

end

/-! ### What is written is read -/

theorem ne_of_isDigit_or {b : UInt8} (h : b = 45 ∨ Numeral.isDigit b = true) :
    isJsonBlank b = false ∧ b ≠ 34 ∧ b ≠ 91 ∧ b ≠ 93 ∧ b ≠ 123 ∧ b ≠ 110 ∧ b ≠ 116 ∧ b ≠ 102 := by
  have hall : ∀ k : Fin 256, UInt8.ofNat k = 45 ∨ Numeral.isDigit (UInt8.ofNat k) = true →
      isJsonBlank (UInt8.ofNat k) = false ∧ UInt8.ofNat k ≠ 34 ∧ UInt8.ofNat k ≠ 91 ∧
      UInt8.ofNat k ≠ 93 ∧ UInt8.ofNat k ≠ 123 ∧ UInt8.ofNat k ≠ 110 ∧ UInt8.ofNat k ≠ 116 ∧
      UInt8.ofNat k ≠ 102 := by
    decide +kernel
  have hb := hall ⟨b.toNat, b.toNat_lt⟩
  rw [UInt8.ofNat_toNat] at hb
  exact hb h

/-- No value begins with a blank or with the bracket that ends an array. -/
theorem Written.head {o : Outline} {s : List UInt8} (h : Written o s) :
    ∃ b r, s = b :: r ∧ isJsonBlank b = false ∧ b ≠ 93 := by
  cases h with
  | number hn =>
    obtain ⟨b, r, rfl, hb⟩ := hn.head
    obtain ⟨hblank, -, -, h93, -⟩ := ne_of_isDigit_or hb
    exact ⟨b, r, rfl, hblank, h93⟩
  | null => exact ⟨_, _, rfl, rfl, by decide⟩
  | yes => exact ⟨_, _, rfl, rfl, by decide⟩
  | no => exact ⟨_, _, rfl, rfl, by decide⟩
  | string => exact ⟨_, _, rfl, rfl, by decide⟩
  | emptyArray => exact ⟨_, _, rfl, rfl, by decide⟩
  | array => exact ⟨_, _, rfl, rfl, by decide⟩
  | emptyObject => exact ⟨_, _, rfl, rfl, by decide⟩
  | object => exact ⟨_, _, rfl, rfl, by decide⟩

theorem WrittenItems.head {os : List Outline} {s : List UInt8} (h : WrittenItems os s)
    (rest : List UInt8) : ∃ b r, skipBlanks (s ++ rest) = b :: r ∧ b ≠ 93 := by
  have padded {o : Outline} {s : List UInt8} (h : Padded o s) (rest : List UInt8) :
      ∃ b r, skipBlanks (s ++ rest) = b :: r ∧ b ≠ 93 := by
    obtain ⟨hw, ho, -⟩ := h
    obtain ⟨b, r, rfl, hblank, h93⟩ := ho.head
    rw [List.append_assoc, skipBlanks_append hw, List.cons_append, List.cons_append,
      skipBlanks_cons hblank]
    exact ⟨b, _, rfl, h93⟩
  cases h with
  | one hp => exact padded hp rest
  | more hp =>
    rw [List.append_assoc]
    exact padded hp _

theorem WrittenMembers.head {ms : List (StringBody × Outline)} {s : List UInt8}
    (h : WrittenMembers ms s) (rest : List UInt8) : ∃ r, skipBlanks (s ++ rest) = 34 :: r := by
  cases h with
  | one hw =>
    rw [List.append_assoc, skipBlanks_append hw]
    exact ⟨_, skipBlanks_cons rfl _⟩
  | more hw =>
    rw [List.append_assoc, skipBlanks_append hw]
    exact ⟨_, skipBlanks_cons rfl _⟩

/-- Blanks in front of a value do not count. -/
theorem readValue_skipBlanks (n : Nat) (s : List UInt8) :
    readValue n (skipBlanks s) = readValue n s := by
  cases n with
  | zero => rfl
  | succ n => rw [readValue, readValue, skipBlanks_skipBlanks]

theorem readItems_skipBlanks (n : Nat) (s : List UInt8) :
    readItems n (skipBlanks s) = readItems n s := by
  cases n with
  | zero => rfl
  | succ n => rw [readItems, readItems, readValue_skipBlanks]

theorem readHead_number {n : Numeral} {s rest : List UInt8} (h : Numeral.Written n s)
    (hr : Numeral.Ends rest) : ∃ b r, s = b :: r ∧ isJsonBlank b = false ∧
      Head.read b (r ++ rest) = (.leaf (.number n), rest) := by
  have hn := Numeral.read_of_written h hr
  obtain ⟨b, r, rfl, hb⟩ := h.head
  obtain ⟨hblank, h34, h91, -, h123, h110, h116, h102⟩ := ne_of_isDigit_or hb
  refine ⟨b, r, rfl, hblank, ?_⟩
  have hnum : (b = 45 || Numeral.isDigit b) = true := by simpa using hb
  rw [List.cons_append] at hn
  simp only [Head.read, if_neg h34, if_neg h91, if_neg h123, if_neg h110, if_neg h116,
    if_neg h102, if_pos hnum, Head.numeral, hn]

theorem ends_of_blanks {w rest : List UInt8} (hw : AreBlanks w) (hr : Numeral.Ends rest) :
    Numeral.Ends (w ++ rest) := by
  cases w with
  | nil => exact hr
  | cons b w =>
    intro x hx
    cases hx
    have hb := hw b (by simp)
    simp only [isJsonBlank, Bool.or_eq_true, beq_iff_eq] at hb
    rcases hb with ((rfl | rfl) | rfl) | rfl
    all_goals exact ⟨rfl, by decide, by decide, by decide⟩

/-- A comma, a bracket or a brace ends what stands before it. -/
theorem ends_of_mark {b : UInt8} (h : b = 44 ∨ b = 93 ∨ b = 125) (rest : List UInt8) :
    Numeral.Ends (b :: rest) ∧ isJsonBlank b = false := by
  refine ⟨?_, ?_⟩
  · intro x hx
    cases hx
    rcases h with rfl | rfl | rfl
    all_goals exact ⟨rfl, by decide, by decide, by decide⟩
  · rcases h with rfl | rfl | rfl
    all_goals rfl

/-- Within `n` steps every value of at most `n` bytes is read as it is written. -/
def ReadsValues (n : Nat) : Prop :=
  ∀ {o s}, Written o s → s.length ≤ n → ∀ rest, Numeral.Ends rest →
    readValue n (s ++ rest) = (o, rest)

@[inherit_doc ReadsValues]
def ReadsItems (n : Nat) : Prop :=
  ∀ {os s}, WrittenItems os s → s.length < n → ∀ rest,
    readItems n (s ++ 93 :: rest) = (os, .closed, rest)

@[inherit_doc ReadsValues]
def ReadsMembers (n : Nat) : Prop :=
  ∀ {ms s}, WrittenMembers ms s → s.length < n → ∀ rest,
    readMembers n (skipBlanks (s ++ 125 :: rest)) = (ms, .closed, rest)

/-- Up to a mark, a value is read with the blanks around it. -/
theorem ReadsValues.padded {n : Nat} (hn : ReadsValues n) {o : Outline} {s : List UInt8}
    (h : Padded o s) (hl : s.length ≤ n) {b : UInt8} (hb : b = 44 ∨ b = 93 ∨ b = 125)
    (rest : List UInt8) :
    ∃ w, readValue n (s ++ b :: rest) = (o, w) ∧ skipBlanks w = b :: rest := by
  obtain ⟨hends, hblank⟩ := ends_of_mark hb rest
  obtain ⟨hw, ho, hw'⟩ := h
  rename_i w s w'
  simp only [List.length_append] at hl
  refine ⟨w' ++ b :: rest, ?_, ?_⟩
  · rw [← readValue_skipBlanks, List.append_assoc, List.append_assoc, skipBlanks_append hw,
      readValue_skipBlanks]
    exact hn ho (by omega) _ (ends_of_blanks hw' hends)
  · rw [skipBlanks_append hw', skipBlanks_cons hblank]

theorem readsItems_succ {n : Nat} (hv : ReadsValues n) (hi : ReadsItems n) :
    ReadsItems (n + 1) := by
  intro os s h hl rest
  cases h with
  | one hp =>
    obtain ⟨w, hr, hs⟩ := hv.padded hp (by omega) (.inr (.inl rfl)) rest
    simp [readItems, hr, hs]
  | @more o s os t hp ht =>
    simp only [List.length_append, List.length_cons] at hl
    obtain ⟨w, hr, hs⟩ := hv.padded hp (by omega) (.inl rfl) (t ++ 93 :: rest)
    obtain ⟨b, r, hb, h93⟩ := ht.head (93 :: rest)
    have ih := hi ht (by omega) rest
    rw [← readItems_skipBlanks, hb] at ih
    simp [readItems, hr, hs, hb, h93, ih]

theorem readsMembers_succ {n : Nat} (hv : ReadsValues n) (hm : ReadsMembers n) :
    ReadsMembers (n + 1) := by
  -- a name and the colon behind it
  have name {ps : List Piece} {w k w' t : List UInt8} (hw : AreBlanks w)
      (hk : StringBody.Written ps k) (hw' : AreBlanks w') :
      skipBlanks (w ++ 34 :: (k ++ (w' ++ 58 :: t))) = 34 :: (k ++ (w' ++ 58 :: t)) ∧
      StringBody.read (k ++ (w' ++ 58 :: t)) = (⟨ps, .closed⟩, w' ++ 58 :: t) ∧
      skipBlanks (w' ++ 58 :: t) = 58 :: t :=
    ⟨by rw [skipBlanks_append hw, skipBlanks_cons rfl], StringBody.read_of_written hk _,
      by rw [skipBlanks_append hw', skipBlanks_cons rfl]⟩
  intro ms s h hl rest
  cases h with
  | @one w ps k w' o s hw hk hw' hp =>
    simp only [List.length_append, List.length_cons] at hl
    obtain ⟨h₁, h₂, h₃⟩ := name (t := s ++ 125 :: rest) hw hk hw'
    obtain ⟨u, hr, hs⟩ := hv.padded hp (by omega) (.inr (.inr rfl)) rest
    simp only [List.append_assoc, List.cons_append] at h₁ ⊢
    rw [h₁]
    simp [readMembers, h₂, h₃, hr, hs]
  | @more w ps k w' o s ms t hw hk hw' hp ht =>
    simp only [List.length_append, List.length_cons] at hl
    obtain ⟨h₁, h₂, h₃⟩ := name (t := s ++ 44 :: (t ++ 125 :: rest)) hw hk hw'
    obtain ⟨u, hr, hs⟩ := hv.padded hp (by omega) (.inl rfl) (t ++ 125 :: rest)
    obtain ⟨r, hb⟩ := ht.head (125 :: rest)
    have ih := hm ht (by omega) rest
    rw [hb] at ih
    simp only [List.append_assoc, List.cons_append] at h₁ ⊢
    rw [h₁]
    simp [readMembers, h₂, h₃, hr, hs, hb, ih]

theorem readsValues_succ {n : Nat} (hi : ReadsItems n) (hm : ReadsMembers n) :
    ReadsValues (n + 1) := by
  intro o s h hl rest hends
  cases h with
  | null => rfl
  | yes => rfl
  | no => rfl
  | number hn =>
    obtain ⟨b, r, rfl, hblank, hread⟩ := readHead_number hn hends
    rw [List.cons_append]
    simp only [readValue, skipBlanks_cons hblank, hread]
  | string hs =>
    have hread := StringBody.read_of_written hs rest
    rw [List.cons_append]
    simp [readValue, skipBlanks_cons (b := 34) rfl, Head.read, hread]
  | @emptyArray w hw =>
    have hskip : skipBlanks (w ++ 93 :: rest) = 93 :: rest := by
      rw [skipBlanks_append hw, skipBlanks_cons rfl]
    simp only [List.cons_append, List.append_assoc, List.nil_append]
    simp [readValue, skipBlanks_cons (b := 91) rfl, Head.read, hskip]
  | @array os s hs =>
    simp only [List.length_append, List.length_cons, List.length_nil] at hl
    obtain ⟨b, r, hb, h93⟩ := hs.head (93 :: rest)
    have ih := hi hs (by omega) rest
    rw [← readItems_skipBlanks, hb] at ih
    simp only [List.cons_append, List.append_assoc, List.nil_append]
    simp [readValue, skipBlanks_cons (b := 91) rfl, Head.read, hb, h93, ih]
  | @emptyObject w hw =>
    have hskip : skipBlanks (w ++ 125 :: rest) = 125 :: rest := by
      rw [skipBlanks_append hw, skipBlanks_cons rfl]
    simp only [List.cons_append, List.append_assoc, List.nil_append]
    simp [readValue, skipBlanks_cons (b := 123) rfl, Head.read, hskip]
  | @object ms s hs =>
    simp only [List.length_append, List.length_cons, List.length_nil] at hl
    obtain ⟨r, hb⟩ := hs.head (125 :: rest)
    have ih := hm hs (by omega) rest
    rw [hb] at ih
    simp only [List.cons_append, List.append_assoc, List.nil_append]
    simp [readValue, skipBlanks_cons (b := 123) rfl, Head.read, hb, ih]

theorem reads_written : ∀ n : Nat, ReadsValues n ∧ ReadsItems n ∧ ReadsMembers n
  | 0 => by
    refine ⟨fun h hl => ?_, fun _ hl => absurd hl (Nat.not_lt_zero _),
      fun _ hl => absurd hl (Nat.not_lt_zero _)⟩
    obtain ⟨b, r, rfl, -⟩ := h.head
    cases hl
  | n + 1 => by
    obtain ⟨hv, hi, hm⟩ := reads_written n
    exact ⟨readsValues_succ hi hm, readsItems_succ hv hi, readsMembers_succ hv hm⟩

/-- A value is read as it is written, up to what cannot go on it. -/
theorem readValue_of_written {o : Outline} {s : List UInt8} (h : Written o s) {n : Nat}
    (hn : s.length ≤ n) {rest : List UInt8} (hr : Numeral.Ends rest) :
    readValue n (s ++ rest) = (o, rest) :=
  (reads_written n).1 h hn rest hr

/-! ### What is read without a flaw is written -/

theorem orElse_eq_ok {m : Option Malformed} : Decode.orElse m = .ok () ↔ m = none := by
  cases m <;> simp [Decode.orElse]

theorem stop_of_mistake {e : StringEnd} : e.mistake = none ↔ e = .closed := by
  cases e <;> simp [StringEnd.mistake]

theorem skip_string {t : StringBody} : (leaf (.string t)).skip = .ok () ↔ t.stop = .closed := by
  rw [skip, orElse_eq_ok, stop_of_mistake]

/-- What is read in two parts is read exactly when both are. -/
theorem bind_eq_ok {x : Except ε α} {f : α → Except ε β} {b : β} :
    (x >>= f) = .ok b ↔ ∃ a, x = .ok a ∧ f a = .ok b := by
  cases x <;> simp [bind, Except.bind]

theorem skip_both {x y : Except Malformed Unit} :
    (x >>= fun _ => y) = .ok () ↔ x = .ok () ∧ y = .ok () := by
  rw [bind_eq_ok]
  exact ⟨fun ⟨(), hx, hy⟩ => ⟨hx, hy⟩, fun ⟨hx, hy⟩ => ⟨(), hx, hy⟩⟩

theorem skip_array {os : List Outline} {stop : ItemsEnd} :
    (array os stop).skip = .ok () ↔ skipItems os = .ok () ∧ stop = .closed := by
  rw [skip, skip_both, orElse_eq_ok]
  cases stop <;> simp [ItemsEnd.skipMistake, ItemsEnd.mistake]

theorem skip_object {ms : List (StringBody × Outline)} {stop : MembersEnd} :
    (object ms stop).skip = .ok () ↔ skipMembers ms = .ok () ∧ stop = .closed := by
  rw [skip, skip_both, orElse_eq_ok]
  cases stop <;> simp [MembersEnd.skipMistake, MembersEnd.mistake]

theorem skipItems_cons {o : Outline} {os : List Outline} :
    skipItems (o :: os) = .ok () ↔ o.skip = .ok () ∧ skipItems os = .ok () := by
  rw [skipItems, skip_both]

theorem skipMembers_cons {k : StringBody} {o : Outline} {ms : List (StringBody × Outline)} :
    skipMembers ((k, o) :: ms) = .ok () ↔
      k.stop = .closed ∧ o.skip = .ok () ∧ skipMembers ms = .ok () := by
  rw [skipMembers, skip_both, skip_both, orElse_eq_ok, stop_of_mistake]

theorem eq_append_of_expect : ∀ {letters s r : List UInt8},
    Head.expect letters s = .ok r → s = letters ++ r
  | [], s, r, h => by
    cases h
    rfl
  | w :: ws, [], r, h => by cases h
  | w :: ws, b :: s, r, h => by
    unfold Head.expect at h
    split at h
    · next hb => rw [hb, eq_append_of_expect h, List.cons_append]
    · cases h

/-- A value without parts was found, which is written in front of `r` unless something is
wrong with it. -/
def FindsLeaf (hd : Head) (s r : List UInt8) : Prop :=
  ∃ l, hd = .leaf l ∧ ((leaf l).skip = .ok () → ∃ u, s = u ++ r ∧ Written (.leaf l) u)

theorem findsLeaf_broken (f : Flaw) (s r : List UInt8) : FindsLeaf (.leaf (.broken f)) s r := by
  refine ⟨_, rfl, fun h => ?_⟩
  cases h

theorem findsLeaf_word {b : UInt8} {letters s : List UInt8} {l : Leaf}
    (hw : Written (.leaf l) (b :: letters)) :
    FindsLeaf (Head.word letters l s).1 (b :: s) (Head.word letters l s).2 := by
  unfold Head.word
  split
  · next he =>
    refine ⟨l, rfl, fun _ => ⟨b :: letters, ?_, hw⟩⟩
    rw [eq_append_of_expect he, List.cons_append]
  · exact findsLeaf_broken _ _ _

theorem findsLeaf_numeral (s : List UInt8) :
    FindsLeaf (Head.numeral s).1 s (Head.numeral s).2 := by
  unfold Head.numeral
  split
  · next hn =>
    refine ⟨_, rfl, fun _ => ?_⟩
    obtain ⟨u, hu, hw⟩ := Numeral.written_of_read hn
    exact ⟨u, hu, .number hw⟩
  · exact findsLeaf_broken _ _ _
  · exact findsLeaf_broken _ _ _

theorem findsLeaf_string (s : List UInt8) :
    FindsLeaf (.leaf (.string (StringBody.read s).1)) (34 :: s) (StringBody.read s).2 := by
  refine ⟨_, rfl, fun h => ?_⟩
  have hc := skip_string.mp h
  obtain ⟨u, hu, hw⟩ := StringBody.written_of_read rfl hc
  refine ⟨34 :: u, congrArg (34 :: ·) hu, ?_⟩
  rw [show (StringBody.read s).1 = ⟨(StringBody.read s).1.pieces, .closed⟩ by rw [← hc]]
  exact .string hw

/-- What a value begins with: it is a value without parts, or a bracket. -/
theorem readHead_cases (b : UInt8) (s : List UInt8) :
    FindsLeaf (Head.read b s).1 (b :: s) (Head.read b s).2 ∨
    (b = 91 ∧ Head.read b s = (.array, s)) ∨ (b = 123 ∧ Head.read b s = (.object, s)) := by
  unfold Head.read
  split
  · next hb => exact .inl (hb ▸ findsLeaf_string s)
  · split
    · next hb => exact .inr (.inl ⟨hb, rfl⟩)
    · split
      · next hb => exact .inr (.inr ⟨hb, rfl⟩)
      · split
        · next hb => exact .inl (hb ▸ findsLeaf_word .null)
        · split
          · next hb => exact .inl (hb ▸ findsLeaf_word .yes)
          · split
            · next hb => exact .inl (hb ▸ findsLeaf_word .no)
            · split
              · exact .inl (findsLeaf_numeral (b :: s))
              · exact .inl (findsLeaf_broken _ _ _)

/-- Within `n` steps, a value in which nothing is wrong is found only where it is written. -/
def FindsValues (n : Nat) : Prop :=
  ∀ {s o r}, readValue n s = (o, r) → o.skip = .ok () →
    ∃ w u, AreBlanks w ∧ s = w ++ (u ++ r) ∧ Written o u

@[inherit_doc FindsValues]
def FindsItems (n : Nat) : Prop :=
  ∀ {s os r}, readItems n s = (os, .closed, r) → skipItems os = .ok () →
    ∃ u, s = u ++ 93 :: r ∧ WrittenItems os u

@[inherit_doc FindsValues]
def FindsMembers (n : Nat) : Prop :=
  ∀ {s ms r}, readMembers n s = (ms, .closed, r) → skipMembers ms = .ok () →
    ∃ u, s = u ++ 125 :: r ∧ WrittenMembers ms u

theorem FindsValues.padded {n : Nat} (hn : FindsValues n) {s r : List UInt8} {b : UInt8}
    (ho : (readValue n s).1.skip = .ok ()) (hb : skipBlanks (readValue n s).2 = b :: r) :
    ∃ u, s = u ++ b :: r ∧ Padded (readValue n s).1 u := by
  obtain ⟨w, u, hw, hs, hu⟩ := hn rfl ho
  obtain ⟨w', hw', hr⟩ := exists_blanks (readValue n s).2
  rw [hb] at hr
  refine ⟨w ++ (u ++ w'), ?_, .mk hw hu hw'⟩
  conv_lhs => rw [hs, hr]
  simp only [List.append_assoc]

theorem WrittenItems.blanks {w : List UInt8} (hw : AreBlanks w) {os : List Outline}
    {s : List UInt8} (h : WrittenItems os s) : WrittenItems os (w ++ s) := by
  have padded {o : Outline} {s : List UInt8} (h : Padded o s) : Padded o (w ++ s) := by
    obtain ⟨hw₁, ho, hw₂⟩ := h
    rw [← List.append_assoc]
    exact .mk (hw.append hw₁) ho hw₂
  cases h with
  | one hp => exact .one (padded hp)
  | more hp ht =>
    rw [← List.append_assoc]
    exact .more (padded hp) ht

theorem WrittenMembers.blanks {w : List UInt8} (hw : AreBlanks w)
    {ms : List (StringBody × Outline)} {s : List UInt8} (h : WrittenMembers ms s) :
    WrittenMembers ms (w ++ s) := by
  cases h with
  | one hw₁ hk hw' hp =>
    rw [← List.append_assoc]
    exact .one (hw.append hw₁) hk hw' hp
  | more hw₁ hk hw' hp ht =>
    rw [← List.append_assoc]
    exact .more (hw.append hw₁) hk hw' hp ht

theorem findsItems_succ {n : Nat} (hv : FindsValues n) (hi : FindsItems n) :
    FindsItems (n + 1) := by
  intro s os r h hos
  unfold readItems at h
  dsimp only at h
  split at h
  · cases h
  · next b t hb =>
    split at h
    · next h93 =>
      cases h
      obtain ⟨u, hu, hp⟩ := hv.padded (skipItems_cons.mp hos).1 hb
      exact ⟨u, h93 ▸ hu, .one hp⟩
    · split at h
      · next h44 =>
        split at h
        · cases h
        · next c t' hc =>
          split at h
          · cases h
          · rcases hr : readItems n (c :: t') with ⟨os', e, r'⟩
            rw [hr] at h
            cases h
            obtain ⟨ho, hos⟩ := skipItems_cons.mp hos
            obtain ⟨u, hu, hp⟩ := hv.padded ho hb
            obtain ⟨v, hv', hw⟩ := hi hr hos
            obtain ⟨w, hw', ht⟩ := exists_blanks t
            refine ⟨u ++ 44 :: (w ++ v), ?_, .more hp (hw.blanks hw')⟩
            rw [hu, h44, ht, hc, hv']
            simp only [List.append_assoc, List.cons_append]
      · cases h

theorem findsMembers_succ {n : Nat} (hv : FindsValues n) (hm : FindsMembers n) :
    FindsMembers (n + 1) := by
  intro s ms r h hms
  cases s with
  | nil => cases h
  | cons b s =>
    unfold readMembers at h
    split at h
    · next h34 =>
      dsimp only at h
      split at h
      · cases h
      · next c t hc =>
        split at h
        · next h58 =>
          -- the name, the blanks behind it and the colon
          obtain ⟨w, hw, hk⟩ := exists_blanks (StringBody.read s).2
          rw [hc, h58] at hk
          have name (hstop : (StringBody.read s).1.stop = .closed) :
              ∃ k, b :: s = 34 :: (k ++ (w ++ 58 :: t)) ∧
                StringBody.Written (StringBody.read s).1.pieces k := by
            obtain ⟨k, hs, hkw⟩ := StringBody.written_of_read rfl hstop
            refine ⟨k, ?_, hkw⟩
            rw [h34, ← hk]
            exact congrArg (34 :: ·) hs
          have body (hstop : (StringBody.read s).1.stop = .closed) :
              (StringBody.read s).1 = ⟨(StringBody.read s).1.pieces, .closed⟩ := by
            rw [← hstop]
          split at h
          · cases h
          · next d u hd =>
            split at h
            · next h125 =>
              cases h
              obtain ⟨hstop, ho, -⟩ := skipMembers_cons.mp hms
              obtain ⟨k, hs, hkw⟩ := name hstop
              obtain ⟨v, hv', hp⟩ := hv.padded ho hd
              refine ⟨34 :: (k ++ (w ++ 58 :: v)), ?_, ?_⟩
              · rw [hs, hv', h125]
                simp only [List.append_assoc, List.cons_append]
              · rw [body hstop]
                exact .one areBlanks_nil hkw hw hp
            · split at h
              · next h44 =>
                split at h
                · cases h
                · next e t' he =>
                  split at h
                  · cases h
                  · rcases hr : readMembers n (e :: t') with ⟨ms', e', r'⟩
                    rw [hr] at h
                    cases h
                    obtain ⟨hstop, ho, hms⟩ := skipMembers_cons.mp hms
                    obtain ⟨k, hs, hkw⟩ := name hstop
                    obtain ⟨v, hv', hp⟩ := hv.padded ho hd
                    obtain ⟨x, hx, hxw⟩ := hm hr hms
                    obtain ⟨w', hw', hu⟩ := exists_blanks u
                    refine ⟨34 :: (k ++ (w ++ 58 :: (v ++ 44 :: (w' ++ x)))), ?_, ?_⟩
                    · rw [hs, hv', h44, hu, he, hx]
                      simp only [List.append_assoc, List.cons_append]
                    · rw [body hstop]
                      exact .more areBlanks_nil hkw hw hp (hxw.blanks hw')
              · cases h
        · cases h
    · cases h

theorem findsValues_succ {n : Nat} (hi : FindsItems n) (hm : FindsMembers n) :
    FindsValues (n + 1) := by
  intro s o r h ho
  obtain ⟨w, hw, hs⟩ := exists_blanks s
  suffices hfound : ∃ u, skipBlanks s = u ++ r ∧ Written o u by
    obtain ⟨u, hu, hwr⟩ := hfound
    exact ⟨w, u, hw, hu ▸ hs, hwr⟩
  unfold readValue at h
  split at h
  · cases h
    cases ho
  · next b t hb =>
    rw [hb]
    rcases readHead_cases b t with hleaf | ⟨h91, hread⟩ | ⟨h123, hread⟩
    · obtain ⟨l, hl, hfound⟩ := hleaf
      rcases hr : Head.read b t with ⟨hd, t'⟩
      rw [hr] at h hl hfound
      cases hl
      cases h
      exact hfound ho
    · rw [hread] at h
      dsimp only at h
      obtain ⟨w', hw', ht⟩ := exists_blanks t
      split at h
      · cases h
        cases (skip_array.mp ho).2
      · next c u hc =>
        rw [hc] at ht
        split at h
        · next h93 =>
          cases h
          refine ⟨91 :: (w' ++ [93]), ?_, .emptyArray hw'⟩
          rw [h91, ht, h93]
          simp
        · rcases hr : readItems n (c :: u) with ⟨os, stop, r'⟩
          rw [hr] at h
          cases h
          obtain ⟨hos, rfl⟩ := skip_array.mp ho
          obtain ⟨v, hv, hwv⟩ := hi hr hos
          refine ⟨91 :: ((w' ++ v) ++ [93]), ?_, .array (hwv.blanks hw')⟩
          rw [h91, ht, hv]
          simp
    · rw [hread] at h
      dsimp only at h
      obtain ⟨w', hw', ht⟩ := exists_blanks t
      split at h
      · cases h
        cases (skip_object.mp ho).2
      · next c u hc =>
        rw [hc] at ht
        split at h
        · next h125 =>
          cases h
          refine ⟨123 :: (w' ++ [125]), ?_, .emptyObject hw'⟩
          rw [h123, ht, h125]
          simp
        · rcases hr : readMembers n (c :: u) with ⟨ms, stop, r'⟩
          rw [hr] at h
          cases h
          obtain ⟨hms, rfl⟩ := skip_object.mp ho
          obtain ⟨v, hv, hwv⟩ := hm hr hms
          refine ⟨123 :: ((w' ++ v) ++ [125]), ?_, .object (hwv.blanks hw')⟩
          rw [h123, ht, hv]
          simp

theorem finds_written : ∀ n : Nat, FindsValues n ∧ FindsItems n ∧ FindsMembers n
  | 0 => by
    refine ⟨fun h ho => ?_, fun h => ?_, fun h => ?_⟩
    · cases h
      cases ho
    · cases h
    · unfold readMembers at h
      cases h
  | n + 1 => by
    obtain ⟨hv, hi, hm⟩ := finds_written n
    exact ⟨findsValues_succ hi hm, findsItems_succ hv hi, findsMembers_succ hv hm⟩

/-- Where a value is read in which nothing is wrong, it is written. -/
theorem written_of_readValue {n : Nat} {s r : List UInt8} {o : Outline}
    (h : readValue n s = (o, r)) (ho : o.skip = .ok ()) :
    ∃ w u, AreBlanks w ∧ s = w ++ (u ++ r) ∧ Written o u :=
  (finds_written n).1 h ho

mutual

/-- Nothing is wrong with a value that is written. -/
theorem skip_of_written : ∀ {o : Outline} {s : List UInt8}, Written o s → o.skip = .ok ()
  | _, _, .null => rfl
  | _, _, .yes => rfl
  | _, _, .no => rfl
  | _, _, .number _ => rfl
  | _, _, .string _ => skip_string.mpr rfl
  | _, _, .emptyArray _ => rfl
  | _, _, .array h => skip_array.mpr ⟨skipItems_of_written h, rfl⟩
  | _, _, .emptyObject _ => rfl
  | _, _, .object h => skip_object.mpr ⟨skipMembers_of_written h, rfl⟩

theorem skip_of_padded : ∀ {o : Outline} {s : List UInt8}, Padded o s → o.skip = .ok ()
  | _, _, .mk _ h _ => skip_of_written h

theorem skipItems_of_written : ∀ {os : List Outline} {s : List UInt8}, WrittenItems os s →
    skipItems os = .ok ()
  | _, _, .one h => skipItems_cons.mpr ⟨skip_of_padded h, rfl⟩
  | _, _, .more h hs => skipItems_cons.mpr ⟨skip_of_padded h, skipItems_of_written hs⟩

theorem skipMembers_of_written : ∀ {ms : List (StringBody × Outline)} {s : List UInt8},
    WrittenMembers ms s → skipMembers ms = .ok ()
  | _, _, .one _ _ _ h => skipMembers_cons.mpr ⟨rfl, skip_of_padded h, rfl⟩
  | _, _, .more _ _ _ h hs =>
    skipMembers_cons.mpr ⟨rfl, skip_of_padded h, skipMembers_of_written hs⟩

end

/-- A value without blanks around it. -/
theorem padded_of_written {o : Outline} {s : List UInt8} (h : Written o s) : Padded o s := by
  have hp := Padded.mk areBlanks_nil h areBlanks_nil
  rwa [List.nil_append, List.append_nil] at hp

theorem ends_nil : Numeral.Ends [] := by
  intro b hb
  cases hb

/-- **A text is read as a whole, without a flaw, as the value that it is written for.** -/
theorem read_iff_padded {o : Outline} {s : List UInt8} :
    read s = (o, []) ∧ o.skip = .ok () ↔ Padded o s := by
  constructor
  · rintro ⟨hr, ho⟩
    rcases hv : readValue (s.length + 1) s with ⟨o', r⟩
    unfold read at hr
    rw [hv] at hr
    obtain ⟨rfl, hblank⟩ := Prod.mk.inj hr
    obtain ⟨w, u, hw, hs, hu⟩ := written_of_readValue hv ho
    obtain ⟨w', hw', hrest⟩ := exists_blanks r
    rw [hblank, List.append_nil] at hrest
    rw [hs, hrest]
    exact .mk hw hu hw'
  · intro h
    refine ⟨?_, skip_of_padded h⟩
    obtain ⟨hw, ho, hw'⟩ := h
    rename_i w s w'
    have hends : Numeral.Ends w' := by
      simpa using ends_of_blanks hw' ends_nil
    have hlen : s.length ≤ (w ++ (s ++ w')).length + 1 := by
      simp only [List.length_append]
      omega
    have hread := readValue_of_written ho hlen hends
    rw [← readValue_skipBlanks, ← skipBlanks_append hw, readValue_skipBlanks] at hread
    have hend : skipBlanks w' = [] := by
      simpa [skipBlanks] using skipBlanks_append hw' []
    unfold read
    rw [hread]
    simp only [hend]

end Outline

/-- A text that is written for an outline is read as the outline is. -/
theorem Decode.document_of_padded {read : Outline → Except Mistake α} {o : Outline} {bs : List UInt8}
    (h : o.Padded bs) : document read bs = read o := by
  have hr := (Outline.read_iff_padded.mpr h).1
  rw [document, hr]
  cases read o with
  | ok a => rfl
  | error m => rfl

end ProxyConsole
