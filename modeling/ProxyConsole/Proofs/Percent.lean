/-
# Percent-encoding can be undone

Where only characters of ASCII stand as they are, an encoded text without percent
signs of its own gives the text back: reading what is encoded undoes the encoding
byte by byte. So two such texts that are encoded alike are the same text. What is
encoded holds but the characters of the text, percent signs and digits, and a
segment is one of dots when it is encoded if it was one before.

Key theorems: `Percent.decode_encode`, `Percent.encode_injective`,
`Percent.mem_encode`, `UrlPath.dots_encode`.
-/
import ProxyConsole.Wire.UrlPath

namespace ProxyConsole

namespace Utf8

theorem encode_append (cs ds : List Char) : encode (cs ++ ds) = encode cs ++ encode ds :=
  List.flatMap_append

/-- A character of ASCII is one byte, its number. -/
theorem encodeChar_of_ascii {c : Char} (h : c.toNat < 0x80) :
    String.utf8EncodeChar c = [UInt8.ofNat c.toNat] := by
  have hv : c.val.toNat = c.toNat := rfl
  unfold String.utf8EncodeChar
  simp only [hv]
  rw [if_pos (by omega)]

/-- The bytes of any other character lie beyond ASCII. -/
theorem le_of_mem_encodeChar {c : Char} (h : 0x80 ≤ c.toNat) {b : UInt8}
    (hb : b ∈ String.utf8EncodeChar c) : 0x80 ≤ b.toNat := by
  have hv : c.val.toNat = c.toNat := rfl
  unfold String.utf8EncodeChar at hb
  simp only [hv] at hb
  rw [if_neg (by omega)] at hb
  split at hb
  · simp only [List.mem_cons, List.not_mem_nil, or_false] at hb
    rcases hb with rfl | rfl
    all_goals simp; omega
  · split at hb
    · simp only [List.mem_cons, List.not_mem_nil, or_false] at hb
      rcases hb with rfl | rfl | rfl
      all_goals simp; omega
    · simp only [List.mem_cons, List.not_mem_nil, or_false] at hb
      rcases hb with rfl | rfl | rfl | rfl
      all_goals simp; omega

end Utf8

namespace Percent

/-! ### Reading what is encoded -/

theorem value?_byte_upper : ∀ n < 16,
    Hex.value? (UInt8.ofNat (Hex.upper n).toNat).toNat = some n := by
  intro n hn
  rw [Utf8.toNat_ofNat_of_lt (Nat.lt_of_lt_of_le (Hex.upper_ascii n hn) (by decide)),
    Hex.value?_upper n hn]

theorem decode_cons_of_ne {b : UInt8} (h : b ≠ 37) (bs : List UInt8) :
    decode (b :: bs) = b :: decode bs := by
  rw [decode.eq_def]
  split
  · next he => cases he
  · next he =>
    cases he
    exact absurd rfl h
  · next he =>
    cases he
    rfl

/-- A byte that is encoded is read as that byte. -/
theorem decode_byte (b : UInt8) (bs : List UInt8) :
    decode (Utf8.encode (byte b) ++ bs) = b :: decode bs := by
  have hb : b.toNat < 256 := UInt8.toNat_lt b
  have hhi : b.toNat / 16 < 16 := by omega
  have hlo : b.toNat % 16 < 16 := Nat.mod_lt _ (by decide)
  have hbytes : Utf8.encode (byte b) =
      [37, UInt8.ofNat (Hex.upper (b.toNat / 16)).toNat,
        UInt8.ofNat (Hex.upper (b.toNat % 16)).toNat] := by
    simp only [Utf8.encode, byte, List.flatMap_cons, List.flatMap_nil,
      Utf8.encodeChar_of_ascii (Hex.upper_ascii _ hhi),
      Utf8.encodeChar_of_ascii (Hex.upper_ascii _ hlo)]
    rfl
  have hsum : 16 * (b.toNat / 16) + b.toNat % 16 = b.toNat := by omega
  rw [hbytes]
  simp only [List.cons_append, List.nil_append]
  rw [decode]
  simp only [value?_byte_upper _ hhi, value?_byte_upper _ hlo, hsum, UInt8.ofNat_toNat]

theorem decode_bytes : ∀ bs rest : List UInt8,
    decode (Utf8.encode (bs.flatMap byte) ++ rest) = bs ++ decode rest
  | [], _ => rfl
  | b :: bs, rest => by
    rw [List.flatMap_cons, Utf8.encode_append, List.append_assoc, decode_byte,
      decode_bytes bs rest, List.cons_append]

variable {keep : Char → Bool} (hk : ∀ c, keep c = true → c.toNat < 0x80)
include hk

theorem decode_char {c : Char} (hc : c ≠ '%') (rest : List UInt8) :
    decode (Utf8.encode (char keep c) ++ rest) = Utf8.encode [c] ++ decode rest := by
  unfold char
  by_cases hkeep : keep c = true
  · have ha : c.toNat < 0x80 := hk c hkeep
    have hb : Utf8.encode [c] = [UInt8.ofNat c.toNat] := by
      rw [Utf8.encode, List.flatMap_cons, Utf8.encodeChar_of_ascii ha]
      rfl
    have hne : UInt8.ofNat c.toNat ≠ 37 := by
      intro he
      have hn := congrArg UInt8.toNat he
      rw [Utf8.toNat_ofNat_of_lt (by omega)] at hn
      exact hc (Char.toNat_inj.mp hn)
    rw [if_pos hkeep, hb, List.cons_append, List.nil_append, decode_cons_of_ne hne]
    rfl
  · rw [if_neg hkeep, decode_bytes]

/-- A text without percent signs is read back from its encoding. -/
theorem decode_encode : ∀ {cs : List Char}, '%' ∉ cs →
    decode (Utf8.encode (encode keep cs)) = Utf8.encode cs
  | [], _ => rfl
  | c :: cs, h => by
    rw [List.mem_cons, not_or] at h
    have ih := decode_encode h.2
    have hcons : encode keep (c :: cs) = char keep c ++ encode keep cs := List.flatMap_cons
    rw [hcons, Utf8.encode_append, decode_char hk (Ne.symm h.1), ih]
    exact (Utf8.encode_append [c] cs).symm

/-- Texts without percent signs that are encoded alike are the same. -/
theorem encode_injective {cs ds : List Char} (hcs : '%' ∉ cs) (hds : '%' ∉ ds)
    (h : encode keep cs = encode keep ds) : cs = ds := by
  have hb : Utf8.encode cs = Utf8.encode ds := by
    rw [← decode_encode hk hcs, ← decode_encode hk hds, h]
  have hd := congrArg Utf8.decode hb
  rw [Utf8.decode_encode, Utf8.decode_encode] at hd
  exact Option.some.inj hd

end Percent

/-! ### What stands in an encoded text -/

namespace Percent

variable {keep : Char → Bool}

theorem encode_cons (keep : Char → Bool) (c : Char) (cs : List Char) :
    encode keep (c :: cs) = char keep c ++ encode keep cs :=
  List.flatMap_cons

/-- A character that may not stand there begins with a percent sign when it is encoded. -/
theorem char_of_not_keep {c : Char} (h : keep c = false) : ∃ more, char keep c = '%' :: more := by
  unfold char
  rw [if_neg (by simp [h])]
  have he : Utf8.encode [c] = String.utf8EncodeChar c := by simp [Utf8.encode]
  cases hb : String.utf8EncodeChar c with
  | nil => exact absurd hb String.utf8EncodeChar_ne_nil
  | cons b bs =>
    rw [he, hb, List.flatMap_cons]
    exact ⟨_, rfl⟩

/-- What an encoded text begins with is what the text begins with, but for percent signs. -/
theorem encode_eq_cons {cs ds : List Char} {x : Char} (hx : x ≠ '%')
    (h : encode keep cs = x :: ds) : ∃ rest, cs = x :: rest ∧ encode keep rest = ds := by
  cases cs with
  | nil => cases h
  | cons c cs =>
    rw [encode_cons] at h
    cases hk : keep c with
    | true =>
      rw [char, if_pos hk, List.singleton_append] at h
      injection h with h₁ h₂
      exact ⟨cs, by rw [h₁], h₂⟩
    | false =>
      obtain ⟨more, hm⟩ := char_of_not_keep hk
      rw [hm, List.cons_append] at h
      injection h with h₁ _
      exact absurd h₁.symm hx

/-- An encoded text without percent signs is the text itself. -/
theorem eq_of_encode : ∀ {cs ds : List Char}, '%' ∉ ds → encode keep cs = ds → cs = ds
  | [], _, _, h => h
  | c :: cs, [], _, h => by
    obtain hk | hk := Bool.eq_false_or_eq_true (keep c)
    · rw [encode_cons, char, if_pos hk] at h
      cases h
    · obtain ⟨more, hm⟩ := char_of_not_keep hk
      rw [encode_cons, hm] at h
      cases h
  | c :: cs, x :: ds, hd, h => by
    rw [List.mem_cons, not_or] at hd
    obtain ⟨rest, hc, hr⟩ := encode_eq_cons (Ne.symm hd.1) h
    rw [hc, eq_of_encode hd.2 hr]

/-- An encoded text holds but characters of the text, percent signs and digits. -/
theorem mem_encode {cs : List Char} {x : Char} (h : x ∈ encode keep cs) :
    (x ∈ cs ∧ keep x = true) ∨ x = '%' ∨ ∃ n < 16, x = Hex.upper n := by
  obtain ⟨c, hc, hx⟩ := List.mem_flatMap.mp h
  unfold char at hx
  split at hx
  · next hk =>
    rw [List.mem_singleton] at hx
    exact Or.inl (hx ▸ ⟨hc, hk⟩)
  · obtain ⟨b, -, hx⟩ := List.mem_flatMap.mp hx
    have hb : b.toNat < 256 := UInt8.toNat_lt b
    simp only [byte, List.mem_cons, List.not_mem_nil, or_false] at hx
    rcases hx with hx | hx | hx
    · exact Or.inr (Or.inl hx)
    · exact Or.inr (Or.inr ⟨_, by omega, hx⟩)
    · exact Or.inr (Or.inr ⟨_, Nat.mod_lt _ (by decide), hx⟩)

/-- Encoding makes but percent signs and digits. -/
theorem not_mem_encode {cs : List Char} {x : Char} (hp : x ≠ '%') (hd : ∀ n < 16, x ≠ Hex.upper n)
    (h : x ∉ cs) : x ∉ encode keep cs := by
  intro hm
  rcases mem_encode hm with ⟨hc, -⟩ | he | ⟨n, hn, he⟩
  · exact h hc
  · exact hp he
  · exact hd n hn he

/-- What may stand there stands in the encoded text too. -/
theorem mem_encode_of_keep {cs : List Char} {x : Char} (h : x ∈ cs) (hk : keep x = true) :
    x ∈ encode keep cs := by
  refine List.mem_flatMap.mpr ⟨x, h, ?_⟩
  rw [char, if_pos hk]
  exact List.mem_singleton_self x

theorem length_char_pos (keep : Char → Bool) (c : Char) : 0 < (char keep c).length := by
  cases hk : keep c with
  | true =>
    rw [char, if_pos hk]
    exact Nat.one_pos
  | false =>
    obtain ⟨more, hm⟩ := char_of_not_keep hk
    rw [hm, List.length_cons]
    exact Nat.succ_pos _

/-- Every character that is left out of a text makes the encoded text shorter. -/
theorem length_encode_of_sublist {cs ds : List Char} (h : cs.Sublist ds) :
    (encode keep cs).length + ds.length ≤ (encode keep ds).length + cs.length := by
  induction h with
  | slnil => exact Nat.le_refl _
  | cons d _ ih =>
    have hd := length_char_pos keep d
    rw [encode_cons, List.length_append, List.length_cons]
    omega
  | cons_cons d _ ih =>
    rw [encode_cons, encode_cons, List.length_append, List.length_append, List.length_cons,
      List.length_cons]
    omega

/-- A text from which something was left out is not encoded as the whole. -/
theorem eq_of_sublist_of_encode {cs ds : List Char} (hs : cs.Sublist ds)
    (h : encode keep cs = encode keep ds) : cs = ds := by
  have hl : (encode keep cs).length + ds.length ≤ (encode keep ds).length + cs.length :=
    length_encode_of_sublist hs
  rw [h] at hl
  exact hs.eq_of_length_le (by omega)

end Percent

/-! ### Segments of dots -/

namespace UrlPath

theorem dots_cons_of_ne {c : Char} (h : c ≠ '%') (cs : List Char) : dots (c :: cs) = c :: dots cs := by
  rw [dots.eq_def]
  split
  · next he =>
    cases he
    exact absurd rfl h
  · next he =>
    cases he
    exact absurd rfl h
  · next he =>
    cases he
    rfl
  · next he => cases he

theorem dots_percent {cs : List Char} (he : ∀ r, cs ≠ '2' :: 'e' :: r)
    (hE : ∀ r, cs ≠ '2' :: 'E' :: r) : dots ('%' :: cs) = '%' :: dots cs := by
  rw [dots.eq_def]
  split
  · next r h =>
    injection h with _ h
    exact absurd h (he r)
  · next r h =>
    injection h with _ h
    exact absurd h (hE r)
  · next h =>
    cases h
    rfl
  · next h => cases h

theorem hexDigit_ne : ∀ n < 16, Hex.upper n ≠ '%' ∧ Hex.upper n ≠ 'e' := by
  decide

theorem eq_of_hexDigit : ∀ n < 16, (Hex.upper n = '2' → n = 2) ∧
    (Hex.upper n = 'E' → n = 14) := by
  decide

/-- An encoded byte is no encoded dot, unless it is the byte of the dot. -/
theorem dots_byte {b : UInt8} (h : b.toNat ≠ 0x2E) (cs : List Char) :
    dots (Percent.byte b ++ cs) = Percent.byte b ++ dots cs := by
  have hb : b.toNat < 256 := UInt8.toNat_lt b
  have hhi : b.toNat / 16 < 16 := by omega
  have hlo : b.toNat % 16 < 16 := Nat.mod_lt _ (by decide)
  have hrest : dots (Hex.upper (b.toNat / 16) :: Hex.upper (b.toNat % 16) :: cs) =
      Hex.upper (b.toNat / 16) :: Hex.upper (b.toNat % 16) :: dots cs := by
    rw [dots_cons_of_ne (hexDigit_ne _ hhi).1, dots_cons_of_ne (hexDigit_ne _ hlo).1]
  have he : ∀ r, Hex.upper (b.toNat / 16) :: Hex.upper (b.toNat % 16) :: cs ≠
      '2' :: 'e' :: r := by
    intro r h
    injection h with _ h
    injection h with h _
    exact (hexDigit_ne _ hlo).2 h
  have hE : ∀ r, Hex.upper (b.toNat / 16) :: Hex.upper (b.toNat % 16) :: cs ≠
      '2' :: 'E' :: r := by
    intro r h
    injection h with h₁ h
    injection h with h₂ _
    have hq := (eq_of_hexDigit _ hhi).1 h₁
    have hr := (eq_of_hexDigit _ hlo).2 h₂
    omega
  exact (dots_percent he hE).trans (congrArg _ hrest)

theorem dots_bytes : ∀ (bs : List UInt8) (cs : List Char), (∀ b ∈ bs, b.toNat ≠ 0x2E) →
    dots (bs.flatMap Percent.byte ++ cs) = bs.flatMap Percent.byte ++ dots cs
  | [], _, _ => rfl
  | b :: bs, cs, h => by
    rw [List.flatMap_cons, List.append_assoc, dots_byte (h b (by simp)),
      dots_bytes bs cs fun d hd => h d (by simp [hd]), List.append_assoc]

theorem dots_char {c : Char} (hc : c ≠ '%') (cs : List Char) :
    dots (Percent.char Percent.inPath c ++ cs) = Percent.char Percent.inPath c ++ dots cs := by
  unfold Percent.char
  by_cases hk : Percent.inPath c = true
  · rw [if_pos hk]
    exact dots_cons_of_ne hc cs
  · rw [if_neg hk]
    refine dots_bytes _ cs fun b hb => ?_
    -- a dot may stand in a path, so it is not among what is encoded
    have hdot : c ≠ '.' := fun he => hk (he ▸ by decide)
    have hb : b ∈ String.utf8EncodeChar c := by simpa [Utf8.encode] using hb
    by_cases ha : c.toNat < 0x80
    · rw [Utf8.encodeChar_of_ascii ha, List.mem_singleton] at hb
      rw [hb, Utf8.toNat_ofNat_of_lt (by omega)]
      exact fun he => hdot (Char.toNat_inj.mp he)
    · have hle := Utf8.le_of_mem_encodeChar (by omega) hb
      omega

/-- What are dots when it is encoded were dots before. -/
theorem dots_encode (cs : List Char) :
    dots (Percent.encode Percent.inPath cs) = Percent.encode Percent.inPath (dots cs) := by
  have hdot : ∀ ds, Percent.encode Percent.inPath ('.' :: ds) =
      '.' :: Percent.encode Percent.inPath ds := fun _ => rfl
  fun_induction dots cs with
  | case1 cs ih => exact (congrArg _ ih).trans (hdot _).symm
  | case2 cs ih => exact (congrArg _ ih).trans (hdot _).symm
  | case3 c cs h₁ h₂ ih =>
    rw [Percent.encode_cons, Percent.encode_cons, ← ih]
    by_cases hc : c = '%'
    · -- encoding neither makes nor hides the two digits of a dot
      subst hc
      have hne : ∀ e ∈ ['e', 'E'], ∀ r, Percent.encode Percent.inPath cs ≠ '2' :: e :: r := by
        intro e he r h
        obtain ⟨cs₁, hcs, hr⟩ := Percent.encode_eq_cons (by decide) h
        have hp : e ≠ '%' := by
          rintro rfl
          revert he
          decide
        obtain ⟨cs₂, hcs₁, -⟩ := Percent.encode_eq_cons hp hr
        rw [hcs₁] at hcs
        simp only [List.mem_cons, List.not_mem_nil, or_false] at he
        rcases he with rfl | rfl
        · exact h₁ cs₂ rfl hcs
        · exact h₂ cs₂ rfl hcs
      show dots ('%' :: Percent.encode Percent.inPath cs) =
        '%' :: dots (Percent.encode Percent.inPath cs)
      exact dots_percent (hne 'e' (by decide)) (hne 'E' (by decide))
    · exact dots_char hc _
  | case4 => rfl

/-- Encoding changes nothing about which segments stand for a place above or for the
place itself. -/
theorem encode_dots_beq {ds : List Char} (hd : '%' ∉ ds) (hk : ds.all Percent.inPath = true)
    (cs : List Char) : (dots (Percent.encode Percent.inPath cs) == ds) = (dots cs == ds) := by
  rw [Bool.eq_iff_iff, beq_iff_eq, beq_iff_eq, dots_encode]
  refine ⟨Percent.eq_of_encode hd, fun h => ?_⟩
  rw [h]
  exact Percent.encode_eq_self (List.all_eq_true.mp hk)

theorem isUp_encode (cs : List Char) : isUp (Percent.encode Percent.inPath cs) = isUp cs :=
  encode_dots_beq (by decide) (by decide) cs

theorem isHere_encode (cs : List Char) : isHere (Percent.encode Percent.inPath cs) = isHere cs :=
  encode_dots_beq (by decide) (by decide) cs

theorem inPath_ascii (c : Char) (h : Percent.inPath c = true) : c.toNat < 0x80 := by
  simp only [Percent.inPath, Percent.isPlain, Bool.and_eq_true, decide_eq_true_eq] at h
  omega

end UrlPath

end ProxyConsole
