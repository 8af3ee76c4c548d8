/-
# The compact text of a value is read as that value

The compact text is one of the texts that the grammar of JSON allows, and its
outline can be told from the value: a numeral of the digits of each integer, and in
the strings the bytes of every character, but for control characters without a
short escape. So reading the text gives the value back, as long as its numbers are
integers of 64 bits, no object has two members of one name, and no more arrays and
objects stand within one another than the reader allows.

Key definitions: `StringBody.ofText`, `Numeral.ofInt`, `Json.outline`,
`Json.isProper`, `Json.depth`.
Key theorems: `Json.written_compact`, `Json.toJson_outline`, `Json.document_bytes`.
-/
import ProxyConsole.Proofs.Grammar
import ProxyConsole.Proofs.Percent

namespace ProxyConsole

/-! ### Strings -/

namespace StringBody

/-- Whether a character stands in compact text as a unit of UTF-16 in hexadecimal digits. -/
def isHexEscaped (c : Char) : Bool :=
  c.toNat < 0x20 && !([8, 9, 10, 12, 13] : List Nat).contains c.toNat

/-- The pieces of a character in compact text. -/
def piecesOf (c : Char) : List Piece :=
  if isHexEscaped c then [.unit c.toNat] else (String.utf8EncodeChar c).map .byte

/-- A string as it stands in compact text. -/
def ofText (s : String) : StringBody :=
  ⟨s.toList.flatMap piecesOf, .closed⟩

theorem written_plain {ps : List Piece} {s : List UInt8} (h : Written ps s) :
    ∀ {bs : List UInt8}, (∀ b ∈ bs, b ≠ 34 ∧ b ≠ 92 ∧ ¬ b < 0x20) →
      Written (bs.map .byte ++ ps) (bs ++ s)
  | [], _ => h
  | b :: bs, hb => by
    obtain ⟨h34, h92, hc⟩ := hb b (by simp)
    exact .plain h34 h92 hc (written_plain h fun x hx => hb x (by simp [hx]))

/-- The bytes of a character that is neither quote nor backslash nor control character. -/
theorem plain_of_char {c : Char} (h20 : 0x20 ≤ c.toNat) (h34 : c ≠ '"') (h92 : c ≠ '\\') :
    ∀ b ∈ String.utf8EncodeChar c, b ≠ 34 ∧ b ≠ 92 ∧ ¬ b < 0x20 := by
  intro b hb
  have hn34 : c.toNat ≠ 34 := fun h => h34 (Char.toNat_inj.mp h)
  have hn92 : c.toNat ≠ 92 := fun h => h92 (Char.toNat_inj.mp h)
  have hlow : b.toNat ≠ 34 ∧ b.toNat ≠ 92 ∧ 32 ≤ b.toNat := by
    by_cases ha : c.toNat < 0x80
    · rw [Utf8.encodeChar_of_ascii ha, List.mem_singleton] at hb
      rw [hb, Utf8.toNat_ofNat_of_lt (by omega)]
      omega
    · have := Utf8.le_of_mem_encodeChar (by omega) hb
      omega
  refine ⟨?_, ?_, ?_⟩
  · rintro rfl
    exact hlow.1 rfl
  · rintro rfl
    exact hlow.2.1 rfl
  · rw [UInt8.lt_iff_toNat_lt]
    exact Nat.not_lt.mpr hlow.2.2

/-- A control character in hexadecimal digits. -/
theorem hex_escape : ∀ n < 32,
    Utf8.encode [Hex.lower (n / 16), Hex.lower (n % 16)] =
      [UInt8.ofNat (Hex.lower (n / 16)).toNat, UInt8.ofNat (Hex.lower (n % 16)).toNat] ∧
    hexNumber [UInt8.ofNat (Hex.lower (n % 16)).toNat,
      UInt8.ofNat (Hex.lower (n / 16)).toNat, 48, 48] = some n := by
  decide

/-- An escaped character is written for its pieces. -/
theorem written_escape (c : Char) {ps : List Piece} {s : List UInt8} (h : Written ps s) :
    Written (piecesOf c ++ ps) (Utf8.encode (Json.escape c) ++ s) := by
  by_cases h34 : c = '"'
  · subst h34
    exact .short rfl h
  by_cases h92 : c = '\\'
  · subst h92
    exact .short rfl h
  by_cases h20 : 0x20 ≤ c.toNat
  · have hhex : isHexEscaped c = false := by
      simp only [isHexEscaped, Bool.and_eq_false_imp, decide_eq_true_eq]
      intro hlt
      omega
    have he : Utf8.encode (Json.escape c) = String.utf8EncodeChar c := by
      rw [Json.escape, if_neg h34, if_neg h92, if_pos h20]
      exact List.append_nil _
    rw [piecesOf, hhex, if_neg Bool.false_ne_true, he]
    exact written_plain h (plain_of_char h20 h34 h92)
  by_cases h10 : c = '\n'
  · subst h10
    exact .short rfl h
  by_cases h13 : c = '\r'
  · subst h13
    exact .short rfl h
  by_cases h9 : c = '\t'
  · subst h9
    exact .short rfl h
  by_cases h8 : c.toNat = 8
  · obtain rfl : c = '\x08' := Char.toNat_inj.mp h8
    exact .short rfl h
  by_cases h12 : c.toNat = 12
  · obtain rfl : c = '\x0c' := Char.toNat_inj.mp h12
    exact .short rfl h
  -- what is left has no short escape
  have hn : c.toNat ≠ 10 ∧ c.toNat ≠ 13 ∧ c.toNat ≠ 9 :=
    ⟨fun h => h10 (Char.toNat_inj.mp h), fun h => h13 (Char.toNat_inj.mp h),
      fun h => h9 (Char.toNat_inj.mp h)⟩
  have hhex : isHexEscaped c = true := by
    simp [isHexEscaped, h8, h12, hn]
    omega
  obtain ⟨hbytes, hnum⟩ := hex_escape c.toNat (by omega)
  have he : Utf8.encode (Json.escape c) =
      92 :: 117 :: 48 :: 48 :: Utf8.encode [Hex.lower (c.toNat / 16),
        Hex.lower (c.toNat % 16)] := by
    rw [Json.escape, if_neg h34, if_neg h92, if_neg h20, if_neg h10, if_neg h13, if_neg h9,
      if_neg h8, if_neg h12]
    rfl
  rw [piecesOf, if_pos hhex, he, hbytes]
  exact .unit hnum h

/-- A string between quotes is written for its pieces. -/
theorem written_ofText (s : String) :
    Written (ofText s).pieces (Utf8.encode (s.toList.flatMap Json.escape ++ ['"'])) := by
  have hall : ∀ cs : List Char,
      Written (cs.flatMap piecesOf) (Utf8.encode (cs.flatMap Json.escape ++ ['"'])) := by
    intro cs
    induction cs with
    | nil => exact .quote
    | cons c cs ih =>
      rw [List.flatMap_cons, List.flatMap_cons, List.append_assoc, Utf8.encode_append]
      exact written_escape c ih
  exact hall s.toList

/-- A unit that is no half of a pair stands for its character. -/
theorem bytesOf_unit {stop : StringEnd} {u : Nat} (ht : isTrailing u = false)
    (hl : isLeading u = false) (ps : List Piece) :
    bytesOf stop (.unit u :: ps) = (bytesOf stop ps).map (Utf8.encode [Char.ofNat u] ++ ·) := by
  match ps with
  | [] => simp [bytesOf, ht, hl]
  | .byte b :: ps => simp [bytesOf, ht, hl]
  | .unit v :: ps => simp [bytesOf, ht, hl]

theorem bytesOf_bytes (ps : List Piece) : ∀ bs : List UInt8,
    bytesOf .closed (bs.map .byte ++ ps) = (bytesOf .closed ps).map (bs ++ ·)
  | [] => by
    simp only [List.map_nil, List.nil_append]
    cases bytesOf .closed ps <;> rfl
  | b :: bs => by
    rw [List.map_cons, List.cons_append, bytesOf, bytesOf_bytes ps bs]
    cases bytesOf .closed ps <;> rfl

theorem bytesOf_piecesOf (c : Char) (ps : List Piece) :
    bytesOf .closed (piecesOf c ++ ps) = (bytesOf .closed ps).map (Utf8.encode [c] ++ ·) := by
  unfold piecesOf
  split
  · next hhex =>
    have hlt : c.toNat < 32 := by
      simp only [isHexEscaped, Bool.and_eq_true, decide_eq_true_eq] at hhex
      exact hhex.1
    have ht : isTrailing c.toNat = false := by
      simp only [isTrailing, Bool.and_eq_false_imp, decide_eq_true_eq]
      omega
    have hl : isLeading c.toNat = false := by
      simp only [isLeading, Bool.and_eq_false_imp, decide_eq_true_eq]
      omega
    rw [List.cons_append, List.nil_append, bytesOf_unit ht hl, Char.ofNat_toNat]
  · rw [bytesOf_bytes]
    congr 1
    funext bs
    simp [Utf8.encode]

/-- **A string of compact text stands for its text.** -/
theorem text_ofText (s : String) : (ofText s).text = .ok s := by
  have hall : ∀ cs : List Char, bytesOf .closed (cs.flatMap piecesOf) = .ok (Utf8.encode cs) := by
    intro cs
    induction cs with
    | nil => rfl
    | cons c cs ih =>
      rw [List.flatMap_cons, bytesOf_piecesOf, ih]
      exact congrArg Except.ok (Utf8.encode_append [c] cs).symm
  simp only [text, ofText, hall, Utf8.toString?, Utf8.decode_encode, Option.map_some,
    String.ofList_toList]

end StringBody

/-! ### Integers -/

namespace Numeral

/-- An integer as it stands in compact text. -/
def ofInt (n : Int) : Numeral :=
  ⟨n < 0, Decimal.digits n.natAbs, [], none⟩

/-- The digits of a number are written as they are counted. -/
theorem whole_digits (n : Nat) : Whole (Decimal.digits n) (Utf8.encode (Decimal.text n)) := by
  have hchar : ∀ d < 10, String.utf8EncodeChar (Decimal.digitChar d) = [UInt8.ofNat (48 + d)] ∧
      isDigit (UInt8.ofNat (48 + d)) = true ∧ digitOf (UInt8.ofNat (48 + d)) = d := by
    decide
  have hbytes : ∀ ds : List Nat, (∀ d ∈ ds, d < 10) →
      Utf8.encode (ds.map Decimal.digitChar) = ds.map fun d => UInt8.ofNat (48 + d) := by
    intro ds
    induction ds with
    | nil => exact fun _ => rfl
    | cons d ds ih =>
      intro h
      rw [List.map_cons, Utf8.encode, List.flatMap_cons, (hchar d (h d (by simp))).1]
      exact congrArg (UInt8.ofNat (48 + d) :: ·) (ih fun x hx => h x (by simp [hx]))
  have hlt := Decimal.digits_lt n
  rw [Decimal.text, hbytes _ hlt]
  have hdigits : AreDigits (Decimal.digits n)
      ((Decimal.digits n).map fun d => UInt8.ofNat (48 + d)) := by
    refine ⟨?_, fun b hb => ?_, ?_⟩
    · simpa using Decimal.digits_ne_nil n
    · obtain ⟨d, hd, rfl⟩ := List.mem_map.mp hb
      exact (hchar d (hlt d hd)).2.1
    · rw [List.map_map]
      refine (List.map_id _).symm.trans (List.map_congr_left fun d hd => ?_)
      exact (hchar d (hlt d hd)).2.2.symm
  by_cases hn : n = 0
  · have h0 : Decimal.digits 0 = [0] := by simp [Decimal.digits]
    rw [hn, h0]
    exact .zero
  · refine .digits hdigits fun h48 => ?_
    -- only zero begins with the digit zero
    obtain ⟨d, hd, hb⟩ : ∃ d, (Decimal.digits n).head? = some d ∧ UInt8.ofNat (48 + d) = 48 := by
      simpa [List.head?_map] using h48
    have hd10 : d < 10 := hlt d (List.mem_of_mem_head? hd)
    have hd0 : d = 0 := by
      have hv := congrArg UInt8.toNat hb
      rw [Utf8.toNat_ofNat_of_lt (by omega)] at hv
      exact Nat.add_left_cancel hv
    exact Decimal.head?_digits n (by omega) d hd hd0

theorem written_ofInt (n : Int) : Written (ofInt n) (Utf8.encode (Decimal.intText n)) := by
  cases n with
  | ofNat n =>
    have h := Written.plain (whole_digits n) .absent .absent
    have hneg : decide (Int.ofNat n < 0) = false := by simp
    rw [List.append_nil, List.append_nil] at h
    rw [ofInt, hneg]
    exact h
  | negSucc n =>
    have h := Written.minus (whole_digits (n + 1)) .absent .absent
    have hneg : decide (Int.negSucc n < 0) = true := decide_eq_true (Int.negSucc_lt_zero n)
    rw [List.append_nil, List.append_nil] at h
    rw [ofInt, hneg]
    exact h

/-- The digits of an integer of 64 bits stand for it. -/
theorem value_ofInt {n : Int} (hlo : -0x8000000000000000 ≤ n) (hhi : n ≤ 0xFFFFFFFFFFFFFFFF) :
    (ofInt n).value = some (.integer n) := by
  have hv : (Decimal.digits n.natAbs).foldl (fun a d => a * 10 + d) 0 = n.natAbs :=
    Decimal.value_digits n.natAbs
  have habsorb : absorb 0 (Decimal.digits n.natAbs) = (n.natAbs, []) := by
    have := absorb_of_le (Decimal.digits n.natAbs) 0 (by rw [hv]; unfold maxSignificand; omega)
    rwa [hv] at this
  unfold value ofInt
  simp only [habsorb, List.isEmpty_nil, Option.isNone_none, Bool.and_self, ↓reduceIte,
    decide_eq_true_eq]
  by_cases hneg : n < 0
  · rw [if_pos hneg, if_pos (by omega)]
    congr 2
    omega
  · rw [if_neg hneg]
    congr 2
    omega

end Numeral

/-! ### Values -/

/-- A number as it stands in compact text. -/
def Number.outline : Number → Outline
  | integer n => .leaf (.number (.ofInt n))
  | double x => (Outline.read (Utf8.encode x.text)).1

namespace Json

mutual

/-- What stands where in the compact text of a value. -/
def outline : Json → Outline
  | null => .leaf .null
  | bool b => .leaf (.bool b)
  | number n => n.outline
  | string s => .leaf (.string (.ofText s))
  | array items => .array (outlineItems items) .closed
  | object members => .object (outlineMembers members) .closed

def outlineItems : List Json → List Outline
  | [] => []
  | v :: vs => outline v :: outlineItems vs

def outlineMembers : List (String × Json) → List (StringBody × Outline)
  | [] => []
  | (k, v) :: ms => (.ofText k, outline v) :: outlineMembers ms

end

mutual

/-- Whether every number is an integer of 64 bits, with a sign or without one, and the
members of every object have names of their own. -/
def isProper : Json → Bool
  | number (.integer n) => -0x8000000000000000 ≤ n && n ≤ 0xFFFFFFFFFFFFFFFF
  | number (.double _) => false
  | array items => areProperItems items
  | object members => (members.map (·.1)).Nodup && areProperMembers members
  | _ => true

def areProperItems : List Json → Bool
  | [] => true
  | v :: vs => isProper v && areProperItems vs

def areProperMembers : List (String × Json) → Bool
  | [] => true
  | (_, v) :: ms => isProper v && areProperMembers ms

end

mutual

/-- How many arrays and objects stand within one another. -/
def depth : Json → Nat
  | array items => depthItems items + 1
  | object members => depthMembers members + 1
  | _ => 0

def depthItems : List Json → Nat
  | [] => 0
  | v :: vs => max (depth v) (depthItems vs)

def depthMembers : List (String × Json) → Nat
  | [] => 0
  | (_, v) :: ms => max (depth v) (depthMembers ms)

end

/-! #### The compact text is written for the value -/

theorem encode_member (k : String) (cs : List Char) :
    Utf8.encode (quoted k ++ ':' :: cs) =
      34 :: (Utf8.encode (k.toList.flatMap escape ++ ['"']) ++ 58 :: Utf8.encode cs) := by
  rw [Utf8.encode_append]
  rfl

mutual

/-- **The compact text of a value is written for its outline.** -/
theorem written_compact : ∀ {v : Json}, v.isProper = true →
    Outline.Written v.outline (Utf8.encode v.compact)
  | null, _ => .null
  | bool true, _ => .yes
  | bool false, _ => .no
  | number (.integer n), _ => .number (Numeral.written_ofInt n)
  | string s, _ => .string (StringBody.written_ofText s)
  | array [], _ => .emptyArray areBlanks_nil
  | array (v :: vs), h => by
    have hi : Outline.WrittenItems (outlineItems (v :: vs))
        (Utf8.encode (compactItems (v :: vs))) :=
      written_items (by simpa [isProper] using h) (List.cons_ne_nil v vs)
    have hw := Outline.Written.array hi
    rw [compact, ← List.cons_append, Utf8.encode_append]
    exact hw
  | object [], _ => .emptyObject areBlanks_nil
  | object (m :: ms), h => by
    rw [isProper, Bool.and_eq_true] at h
    have hm := written_members h.2 (List.cons_ne_nil m ms)
    have hw := Outline.Written.object hm
    rw [compact, ← List.cons_append, Utf8.encode_append]
    exact hw

theorem written_items : ∀ {vs : List Json}, areProperItems vs = true → vs ≠ [] →
    Outline.WrittenItems (outlineItems vs) (Utf8.encode (compactItems vs))
  | [], _, hne => absurd rfl hne
  | [v], h, _ => by
    rw [areProperItems, areProperItems, Bool.and_true] at h
    exact .one (Outline.padded_of_written (written_compact h))
  | v :: w :: vs, h, _ => by
    rw [areProperItems, Bool.and_eq_true] at h
    have hs := written_items h.2 (List.cons_ne_nil w vs)
    rw [compactItems, Utf8.encode_append]
    · exact .more (Outline.padded_of_written (written_compact h.1)) hs
    · exact List.cons_ne_nil w vs

theorem written_members : ∀ {ms : List (String × Json)}, areProperMembers ms = true → ms ≠ [] →
    Outline.WrittenMembers (outlineMembers ms) (Utf8.encode (compactMembers ms))
  | [], _, hne => absurd rfl hne
  | [(k, v)], h, _ => by
    rw [areProperMembers, areProperMembers, Bool.and_true] at h
    have hp := Outline.padded_of_written (written_compact h)
    have hw := Outline.WrittenMembers.one areBlanks_nil (StringBody.written_ofText k)
      areBlanks_nil hp
    rw [compactMembers, encode_member]
    exact hw
  | (k, v) :: m :: ms, h, _ => by
    rw [areProperMembers, Bool.and_eq_true] at h
    have hp := Outline.padded_of_written (written_compact h.1)
    have hs := written_members h.2 (List.cons_ne_nil m ms)
    have hw := Outline.WrittenMembers.more areBlanks_nil (StringBody.written_ofText k)
      areBlanks_nil hp hs
    have he : Utf8.encode (v.compact ++ ',' :: compactMembers (m :: ms)) =
        Utf8.encode v.compact ++ 44 :: Utf8.encode (compactMembers (m :: ms)) :=
      Utf8.encode_append _ _
    rw [compactMembers, encode_member, he]
    · exact hw
    · exact List.cons_ne_nil m ms

end

/-- What reads the outline of a value reads its compact text. -/
theorem document_bytes {v : Json} (h : v.isProper = true) (read : Outline → Except Mistake α) :
    Decode.document read v.bytes = read v.outline :=
  Decode.document_of_padded (Outline.padded_of_written (written_compact h))

/-! #### The outline holds the value -/

/-- A value of another name stands at the end. -/
theorem insert_of_not_mem {k : String} {v : Json} : ∀ {ms : List (String × Json)},
    k ∉ ms.map (·.1) → insert k v ms = ms ++ [(k, v)]
  | [], _ => rfl
  | m :: ms, h => by
    rw [List.map_cons, List.mem_cons, not_or] at h
    rw [insert, if_neg fun he => h.1 he.symm, insert_of_not_mem h.2, List.cons_append]

mutual

/-- **The outline of a value holds that value.** -/
theorem toJson_outline : ∀ {v : Json} {d : Nat}, v.isProper = true → v.depth ≤ d →
    v.outline.toJson d = .ok v
  | null, _, _, _ => by rw [outline, Outline.toJson]
  | bool b, _, _, _ => by rw [outline, Outline.toJson]
  | number (.integer n), _, h, _ => by
    simp only [isProper, Bool.and_eq_true, decide_eq_true_eq] at h
    rw [outline, Number.outline, Outline.toJson, Decode.number, Numeral.value_ofInt h.1 h.2]
    rfl
  | string s, _, _, _ => by
    rw [outline, Outline.toJson, StringBody.text_ofText]
    rfl
  | array vs, 0, _, hd => by simp [depth] at hd
  | array vs, d + 1, h, hd => by
    rw [outline, Outline.toJson, toJson_items (by simpa [isProper] using h)
      (by simpa [depth] using hd)]
    rfl
  | object ms, 0, _, hd => by simp [depth] at hd
  | object ms, d + 1, h, hd => by
    simp only [isProper, Bool.and_eq_true, decide_eq_true_eq] at h
    have hm : Outline.toJsonMembers d [] (outlineMembers ms) = .ok ([] ++ ms) :=
      toJson_members h.2 (by simpa [depth] using hd) (by simpa using h.1)
    rw [outline, Outline.toJson, hm]
    rfl

theorem toJson_items : ∀ {vs : List Json} {d : Nat}, areProperItems vs = true →
    depthItems vs ≤ d → Outline.toJsonItems d (outlineItems vs) = .ok vs
  | [], _, _, _ => rfl
  | v :: vs, d, h, hd => by
    rw [areProperItems, Bool.and_eq_true] at h
    rw [depthItems, Nat.max_le] at hd
    rw [outlineItems, Outline.toJsonItems, toJson_outline h.1 hd.1, toJson_items h.2 hd.2]
    rfl

theorem toJson_members : ∀ {ms got : List (String × Json)} {d : Nat},
    areProperMembers ms = true → depthMembers ms ≤ d → ((got ++ ms).map (·.1)).Nodup →
    Outline.toJsonMembers d got (outlineMembers ms) = .ok (got ++ ms)
  | [], got, _, _, _, _ => by rw [outlineMembers, Outline.toJsonMembers, List.append_nil]
  | (k, v) :: ms, got, d, h, hd, hn => by
    rw [areProperMembers, Bool.and_eq_true] at h
    rw [depthMembers, Nat.max_le] at hd
    have hk : k ∉ got.map (·.1) := by
      rw [List.map_append, List.map_cons, List.nodup_append] at hn
      exact fun hm => hn.2.2 k hm k (by simp) rfl
    have ih : Outline.toJsonMembers d (got ++ [(k, v)]) (outlineMembers ms) =
        .ok (got ++ [(k, v)] ++ ms) := toJson_members h.2 hd.2 (by simpa using hn)
    rw [List.append_assoc, List.singleton_append] at ih
    rw [outlineMembers, Outline.toJsonMembers, StringBody.text_ofText, toJson_outline h.1 hd.1]
    simp only [bind, Except.bind]
    rw [insert_of_not_mem hk, ih]

end

end Json
end ProxyConsole
