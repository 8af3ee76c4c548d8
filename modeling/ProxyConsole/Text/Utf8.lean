/-
# UTF-8 bytes and characters

`Utf8.encode` writes characters as bytes. `Utf8.decode` reads them back and
refuses ill-formed bytes; `Utf8.decodeLossy` never refuses and puts U+FFFD in
the place of each maximal ill-formed piece. Both readers step through the bytes
with `Utf8.chunk`, which holds the whole of the format: which second bytes a
lead byte allows.

Key definitions: `Utf8.encode`, `Utf8.decode`, `Utf8.decodeLossy`.
Key theorem: `Utf8.decode_encode`.
-/

namespace ProxyConsole
namespace Utf8

/-- The bytes of a text. -/
def encode (cs : List Char) : List UInt8 :=
  cs.flatMap String.utf8EncodeChar

/-- The bytes of a string. -/
def bytes (s : String) : List UInt8 :=
  encode s.toList

/-- A byte that continues a character. -/
def isTail (b : UInt8) : Bool :=
  0x80 ≤ b && b ≤ 0xBF

/-- The six bits that a continuing byte carries. -/
def tailBits (b : UInt8) : Nat :=
  b.toNat % 64

/-- The bytes that may follow a lead byte of three or four bytes: without the
overlong forms, the surrogates and what lies above U+10FFFF. -/
def isSecond (lead b : UInt8) : Bool :=
  (if lead = 0xE0 then 0xA0 else if lead = 0xF0 then 0x90 else 0x80) ≤ b &&
    b ≤ (if lead = 0xED then 0x9F else if lead = 0xF4 then 0x8F else 0xBF)

/-- One character read from its lead byte and what follows, with the rest; no
character, and the rest after the longest piece that could have begun one, when
the bytes are ill-formed. -/
def chunk (a : UInt8) (r : List UInt8) : Option Char × List UInt8 :=
  if a < 0x80 then (some (Char.ofNat a.toNat), r)
  else if 0xC2 ≤ a && a ≤ 0xDF then
    match r with
    | b :: r1 =>
      if isTail b then (some (Char.ofNat (a.toNat % 32 * 64 + tailBits b)), r1) else (none, r)
    | [] => (none, [])
  else if 0xE0 ≤ a && a ≤ 0xEF then
    match r with
    | b :: r1 =>
      if isSecond a b then
        match r1 with
        | c :: r2 =>
          if isTail c then
            (some (Char.ofNat (a.toNat % 16 * 4096 + tailBits b * 64 + tailBits c)), r2)
          else (none, r1)
        | [] => (none, [])
      else (none, r)
    | [] => (none, [])
  else if 0xF0 ≤ a && a ≤ 0xF4 then
    match r with
    | b :: r1 =>
      if isSecond a b then
        match r1 with
        | c :: r2 =>
          if isTail c then
            match r2 with
            | d :: r3 =>
              if isTail d then
                (some (Char.ofNat (a.toNat % 8 * 262144 + tailBits b * 4096 + tailBits c * 64 +
                  tailBits d)), r3)
              else (none, r2)
            | [] => (none, [])
          else (none, r1)
        | [] => (none, [])
      else (none, r)
    | [] => (none, [])
  else (none, r)

theorem length_chunk_le (a : UInt8) (r : List UInt8) : (chunk a r).2.length ≤ r.length := by
  unfold chunk
  repeat' split
  all_goals simp only [List.length_cons, List.length_nil]
  all_goals omega

/-- The text that well-formed bytes stand for. -/
def decode : List UInt8 → Option (List Char)
  | [] => some []
  | a :: r =>
    match (chunk a r).1 with
    | some c => (decode (chunk a r).2).map (c :: ·)
    | none => none
termination_by bs => bs.length
decreasing_by
  have := length_chunk_le a r
  simp only [List.length_cons]
  omega

/-- The text of any bytes, with U+FFFD for what is ill-formed. -/
def decodeLossy : List UInt8 → List Char
  | [] => []
  | a :: r => (chunk a r).1.getD '\uFFFD' :: decodeLossy (chunk a r).2
termination_by bs => bs.length
decreasing_by
  have := length_chunk_le a r
  simp only [List.length_cons]
  omega

/-- The string that well-formed bytes stand for. -/
def toString? (bs : List UInt8) : Option String :=
  (decode bs).map String.ofList

/-- The string of any bytes, with U+FFFD for what is ill-formed. -/
def toStringLossy (bs : List UInt8) : String :=
  String.ofList (decodeLossy bs)

/-! ### Reading what was written -/

theorem toNat_ofNat_of_lt {n : Nat} (h : n < 256) : (UInt8.ofNat n).toNat = n := by
  simp [Nat.mod_eq_of_lt h]

theorem isTail_ofNat (n : Nat) : isTail (UInt8.ofNat (n % 64 + 128)) = true := by
  have h := toNat_ofNat_of_lt (n := n % 64 + 128) (by omega)
  simp only [isTail, Bool.and_eq_true, decide_eq_true_eq, UInt8.le_iff_toNat_le, h]
  exact ⟨by simp, by simp; omega⟩

theorem tailBits_ofNat (n : Nat) : tailBits (UInt8.ofNat (n % 64 + 128)) = n % 64 := by
  unfold tailBits
  rw [toNat_ofNat_of_lt (by omega)]
  omega

/-- A written character is read back, whatever follows it. -/
theorem chunk_encodeChar (c : Char) (r : List UInt8) :
    ∃ a t, String.utf8EncodeChar c ++ r = a :: t ∧ chunk a t = (some c, r) := by
  have hv : c.val.toNat = c.toNat := rfl
  have hc := c.valid
  rw [show c.val.isValidChar ↔ c.toNat.isValidChar from Iff.rfl, Nat.isValidChar] at hc
  unfold String.utf8EncodeChar
  simp only [hv]
  split
  · next h1 =>
    refine ⟨_, _, rfl, ?_⟩
    have h := toNat_ofNat_of_lt (n := c.toNat) (by omega)
    rw [chunk.eq_def, if_pos (by rw [UInt8.lt_iff_toNat_lt, h]; simp; omega), h, Char.ofNat_toNat]
    rfl
  split
  · next h1 h2 =>
    refine ⟨_, _, rfl, ?_⟩
    have h := toNat_ofNat_of_lt (n := c.toNat / 64 % 32 + 192) (by omega)
    rw [chunk.eq_def, if_neg (by rw [UInt8.lt_iff_toNat_lt, h]; simp), if_pos]
    · simp only [List.append_eq, List.cons_append, List.nil_append, isTail_ofNat, if_true, tailBits_ofNat, h]
      rw [show (c.toNat / 64 % 32 + 192) % 32 * 64 + c.toNat % 64 = c.toNat by omega,
        Char.ofNat_toNat]
    · simp only [Bool.and_eq_true, decide_eq_true_eq, UInt8.le_iff_toNat_le, h]
      exact ⟨by simp; omega, by simp; omega⟩
  split
  · next h1 h2 h3 =>
    refine ⟨_, _, rfl, ?_⟩
    have h := toNat_ofNat_of_lt (n := c.toNat / 4096 % 16 + 224) (by omega)
    have h' := toNat_ofNat_of_lt (n := c.toNat / 64 % 64 + 128) (by omega)
    rw [chunk.eq_def, if_neg (by rw [UInt8.lt_iff_toNat_lt, h]; simp), if_neg, if_pos]
    · have hs : isSecond (UInt8.ofNat (c.toNat / 4096 % 16 + 224))
          (UInt8.ofNat (c.toNat / 64 % 64 + 128)) = true := by
        simp only [isSecond, Bool.and_eq_true, decide_eq_true_eq, ← UInt8.toNat_inj,
          UInt8.le_iff_toNat_le, h, apply_ite UInt8.toNat, h']
        constructor
        · split
          · next e => simp at e ⊢; omega
          · split
            · next e => simp at e; omega
            · simp
        · split
          · next e => simp at e ⊢; omega
          · split
            · next e => simp at e; omega
            · simp; omega
      simp only [List.append_eq, List.cons_append, List.nil_append, hs, if_true, isTail_ofNat,
        tailBits_ofNat, h]
      rw [show (c.toNat / 4096 % 16 + 224) % 16 * 4096 + c.toNat / 64 % 64 * 64 + c.toNat % 64 =
        c.toNat by omega, Char.ofNat_toNat]
    · simp only [Bool.and_eq_true, decide_eq_true_eq, UInt8.le_iff_toNat_le, h]
      exact ⟨by simp, by simp; omega⟩
    · simp only [Bool.and_eq_true, decide_eq_true_eq, UInt8.le_iff_toNat_le, h]
      simp
  · next h1 h2 h3 =>
    refine ⟨_, _, rfl, ?_⟩
    have h := toNat_ofNat_of_lt (n := c.toNat / 262144 % 8 + 240) (by omega)
    have h' := toNat_ofNat_of_lt (n := c.toNat / 4096 % 64 + 128) (by omega)
    rw [chunk.eq_def, if_neg (by rw [UInt8.lt_iff_toNat_lt, h]; simp), if_neg, if_neg, if_pos]
    · have hs : isSecond (UInt8.ofNat (c.toNat / 262144 % 8 + 240))
          (UInt8.ofNat (c.toNat / 4096 % 64 + 128)) = true := by
        simp only [isSecond, Bool.and_eq_true, decide_eq_true_eq, ← UInt8.toNat_inj,
          UInt8.le_iff_toNat_le, h, apply_ite UInt8.toNat, h']
        constructor
        · split
          · next e => simp at e
          · split
            · next e => simp at e ⊢; omega
            · simp
        · split
          · next e => simp at e
          · split
            · next e => simp at e ⊢; omega
            · simp; omega
      simp only [List.append_eq, List.cons_append, List.nil_append, hs, if_true, isTail_ofNat,
        tailBits_ofNat, h]
      rw [show (c.toNat / 262144 % 8 + 240) % 8 * 262144 + c.toNat / 4096 % 64 * 4096 +
        c.toNat / 64 % 64 * 64 + c.toNat % 64 = c.toNat by omega, Char.ofNat_toNat]
    · simp only [Bool.and_eq_true, decide_eq_true_eq, UInt8.le_iff_toNat_le, h]
      exact ⟨by simp, by simp; omega⟩
    · simp only [Bool.and_eq_true, decide_eq_true_eq, UInt8.le_iff_toNat_le, h]
      simp
    · simp only [Bool.and_eq_true, decide_eq_true_eq, UInt8.le_iff_toNat_le, h]
      simp

/-- The bytes of a text stand for that text. -/
theorem decode_encode (cs : List Char) : decode (encode cs) = some cs := by
  induction cs with
  | nil => simp [encode, decode]
  | cons c cs ih =>
    obtain ⟨a, t, ht, hc⟩ := chunk_encodeChar c (encode cs)
    have : encode (c :: cs) = a :: t := by rw [← ht]; rfl
    rw [this, decode, hc]
    simp [ih]

end Utf8
end ProxyConsole
