/-
# Every text of Base64 stands for its own bytes

Symbols decode to some bytes when they are the symbols for these bytes, and at no
other time: a last group of one symbol is refused, and so is a last group whose
bits that are left over are not zero. So bytes can be written down in one way
only, and what was written is read back.

Key theorems: `Base64Url.decode_eq_ok`, `Base64Url.decode_utf8_eq_ok`.
-/
import ProxyConsole.Proofs.Percent
import ProxyConsole.Text.Base64Url

namespace ProxyConsole

namespace Utf8

/-- Two texts with the same bytes are the same text. -/
theorem encode_injective {cs ds : List Char} (h : encode cs = encode ds) : cs = ds := by
  have hd := congrArg decode h
  rw [decode_encode, decode_encode] at hd
  exact Option.some.inj hd

end Utf8

namespace Base64Url

/-! ### Symbols and their numbers -/

/-- Every number below 64 has one symbol. -/
theorem symbol_number? {b : UInt8} {n : Nat} (h : number? b = some n) : symbol n = b ∧ n < 64 := by
  have hall : ∀ k : Fin 256, ∀ m ∈ number? (UInt8.ofNat k), symbol m = UInt8.ofNat k ∧ m < 64 := by
    decide +kernel
  have hb := hall ⟨b.toNat, b.toNat_lt⟩ n
  rw [UInt8.ofNat_toNat] at hb
  exact hb h

theorem numbers_map_symbol : ∀ (ns : List Nat) (offset : Nat), (∀ n ∈ ns, n < 64) →
    numbers offset (ns.map symbol) = .ok ns
  | [], _, _ => rfl
  | n :: ns, offset, h => by
    have hn : number? (symbol n) = some n := number?_symbol n (h n (by simp))
    have ih := numbers_map_symbol ns (offset + 1) fun m hm => h m (by simp [hm])
    rw [List.map_cons, numbers, hn]
    simp only [ih]
    rfl

/-- What has numbers is made of the symbols for them. -/
theorem eq_map_symbol : ∀ {cs : List UInt8} {offset : Nat} {ns : List Nat},
    numbers offset cs = .ok ns → cs = ns.map symbol ∧ ∀ n ∈ ns, n < 64
  | [], _, ns, h => by
    cases h
    exact ⟨rfl, by simp⟩
  | b :: cs, offset, ns, h => by
    unfold numbers at h
    split at h
    · cases h
    · next n hn =>
      obtain ⟨hb, hlt⟩ := symbol_number? hn
      cases hr : numbers (offset + 1) cs with
      | error f =>
        rw [hr] at h
        cases h
      | ok ms =>
        rw [hr] at h
        cases h
        obtain ⟨hcs, hms⟩ := eq_map_symbol hr
        refine ⟨by rw [List.map_cons, hb, ← hcs], fun m hm => ?_⟩
        rcases List.mem_cons.mp hm with rfl | hm
        · exact hlt
        · exact hms m hm

/-! ### Groups of numbers -/

theorem numbersOf_lt : ∀ (bs : List UInt8), ∀ n ∈ numbersOf bs, n < 64
  | [], n, h => by cases h
  | [a], n, h => by
    have ha := a.toNat_lt
    simp only [numbersOf, List.mem_cons, List.not_mem_nil, or_false] at h
    omega
  | [a, b], n, h => by
    have ha := a.toNat_lt
    have hb := b.toNat_lt
    simp only [numbersOf, List.mem_cons, List.not_mem_nil, or_false] at h
    omega
  | a :: b :: c :: bs, n, h => by
    have ha := a.toNat_lt
    have hb := b.toNat_lt
    have hc := c.toNat_lt
    simp only [numbersOf, List.mem_cons] at h
    rcases h with h | h | h | h | h
    · omega
    · omega
    · omega
    · omega
    · exact numbersOf_lt bs n h

/-- A last group has two symbols or three. -/
theorem length_numbersOf : ∀ bs : List UInt8, (numbersOf bs).length % 4 ≠ 1
  | [] => by simp [numbersOf]
  | [a] => by simp [numbersOf]
  | [a, b] => by simp [numbersOf]
  | a :: b :: c :: bs => by
    have ih := length_numbersOf bs
    simp only [numbersOf, List.length_cons]
    omega

theorem leftOver_numbersOf : ∀ bs : List UInt8, leftOver (numbersOf bs) = 0
  | [] => rfl
  | [a] => by
    simp only [numbersOf, leftOver]
    omega
  | [a, b] => by
    simp only [numbersOf, leftOver]
    omega
  | a :: b :: c :: bs => by
    rw [numbersOf, leftOver, leftOver_numbersOf bs]

/-- Numbers with nothing left over are those of the bytes that they stand for. -/
theorem numbersOf_bytesOf : ∀ ns : List Nat, (∀ n ∈ ns, n < 64) → ns.length % 4 ≠ 1 →
    leftOver ns = 0 → numbersOf (bytesOf ns) = ns
  | [], _, _, _ => rfl
  | [a], _, hl, _ => absurd rfl hl
  | [a, b], h, _, hz => by
    have ha : a < 64 := h a (by simp)
    have hb : b < 64 := h b (by simp)
    simp only [leftOver] at hz
    simp only [bytesOf, numbersOf, Utf8.toNat_ofNat_of_lt (n := a * 4 + b / 16) (by omega)]
    simp only [List.cons.injEq, and_true]
    omega
  | [a, b, c], h, _, hz => by
    have ha : a < 64 := h a (by simp)
    have hb : b < 64 := h b (by simp)
    have hc : c < 64 := h c (by simp)
    simp only [leftOver] at hz
    simp only [bytesOf, numbersOf, Utf8.toNat_ofNat_of_lt (n := a * 4 + b / 16) (by omega),
      Utf8.toNat_ofNat_of_lt (n := b % 16 * 16 + c / 4) (by omega)]
    simp only [List.cons.injEq, and_true]
    omega
  | a :: b :: c :: d :: ns, h, hl, hz => by
    have ha : a < 64 := h a (by simp)
    have hb : b < 64 := h b (by simp)
    have hc : c < 64 := h c (by simp)
    have hd : d < 64 := h d (by simp)
    simp only [List.length_cons] at hl
    have ih := numbersOf_bytesOf ns (fun n hn => h n (by simp [hn])) (by omega)
      (by rwa [leftOver] at hz)
    simp only [bytesOf, numbersOf, ih, Utf8.toNat_ofNat_of_lt (n := a * 4 + b / 16) (by omega),
      Utf8.toNat_ofNat_of_lt (n := b % 16 * 16 + c / 4) (by omega),
      Utf8.toNat_ofNat_of_lt (n := c % 4 * 64 + d) (by omega)]
    simp only [List.cons.injEq, and_true]
    omega

/-! ### Texts -/

theorem loneFlaw_eq_none {cs : List UInt8} (h : cs.length % 4 ≠ 1) : loneFlaw cs = none := by
  rw [loneFlaw, if_neg h]

/-- Nothing is wrong with the last group when it has two symbols at least and nothing left
over. -/
theorem lastFlaw_eq_none {cs : List UInt8} {ns : List Nat} (hn : ns.length = cs.length) :
    lastFlaw cs ns = none ↔ cs.length % 4 ≠ 1 ∧ leftOver ns = 0 := by
  unfold lastFlaw
  by_cases hl : cs.length % 4 = 1
  · simp [hl]
  · by_cases hz : leftOver ns = 0
    · simp [hl, hz]
    · have hne : cs ≠ [] := by
        rintro rfl
        obtain rfl : ns = [] := List.length_eq_zero_iff.mp hn
        exact hz rfl
      simp [hl, hz, hne]

/-- **A text decodes to bytes when it is the text for them.** -/
theorem decode_eq_ok {cs bs : List UInt8} : decode cs = .ok bs ↔ cs = encode bs := by
  constructor
  · intro h
    unfold decode at h
    split at h
    · cases h
    · split at h
      · cases h
      · next ns hns =>
        obtain ⟨hcs, hlt⟩ := eq_map_symbol hns
        have hlen : ns.length = cs.length := by rw [hcs, List.length_map]
        split at h
        · cases h
        · next hlast =>
          cases h
          obtain ⟨hl, hz⟩ := (lastFlaw_eq_none hlen).mp hlast
          rw [encode, numbersOf_bytesOf ns hlt (hlen ▸ hl) hz]
          exact hcs
  · rintro rfl
    have hlen : (encode bs).length = (numbersOf bs).length := List.length_map ..
    have hl : (encode bs).length % 4 ≠ 1 := hlen ▸ length_numbersOf bs
    have hns : numbers 0 (encode bs) = .ok (numbersOf bs) :=
      numbers_map_symbol _ 0 (numbersOf_lt bs)
    have hlast : lastFlaw (encode bs) (numbersOf bs) = none :=
      (lastFlaw_eq_none hlen.symm).mpr ⟨hl, leftOver_numbersOf bs⟩
    unfold decode
    simp only [loneFlaw_eq_none hl, hns, hlast, bytesOf_numbersOf]

/-- The bytes of the text are the symbols. -/
theorem encode_text (bs : List UInt8) : Utf8.encode (text bs) = encode bs := by
  have hchar : ∀ n < 64, String.utf8EncodeChar (symbolChar n) = [symbol n] := by decide
  have hall : ∀ ns : List Nat, (∀ n ∈ ns, n < 64) →
      Utf8.encode (ns.map symbolChar) = ns.map symbol := by
    intro ns
    induction ns with
    | nil => exact fun _ => rfl
    | cons n ns ih =>
      intro h
      rw [List.map_cons, Utf8.encode, List.flatMap_cons, hchar n (h n (by simp))]
      exact congrArg (symbol n :: ·) (ih fun m hm => h m (by simp [hm]))
  exact hall (numbersOf bs) (numbersOf_lt bs)

/-- **A text of characters decodes to bytes when it is the text for them.** -/
theorem decode_utf8_eq_ok {cs : List Char} {bs : List UInt8} :
    decode (Utf8.encode cs) = .ok bs ↔ cs = text bs := by
  rw [decode_eq_ok, ← encode_text]
  exact ⟨Utf8.encode_injective, congrArg Utf8.encode⟩

/-- Neither padding nor a dot is a symbol. -/
theorem ne_of_mem_text {bs : List UInt8} {c : Char} (h : c ∈ text bs) : c ≠ '=' ∧ c ≠ '.' := by
  have hall : ∀ n < 64, symbolChar n ≠ '=' ∧ symbolChar n ≠ '.' := by decide
  obtain ⟨n, hn, rfl⟩ := List.mem_map.mp h
  exact hall n (numbersOf_lt bs n hn)

end Base64Url
end ProxyConsole
