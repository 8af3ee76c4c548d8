/-
# A record is read by its schema

An object is a record when no field of a record stands in it twice, the five without a
default stand in it, and each that stands in it has a value of its type: texts, a port, the
name of a protocol, an owner, texts of clients, a truth value, and instants. The record has
the values of the fields, and the defaults of those that are left out. Nothing else counts:
neither the order of the members nor whatever else stands among them.

Where a name is asked for, an object whose only member has that name and the value `null`
will do, and an owner may be an array of its two fields.

Key definitions: `Numeral.IsInteger`, `Outline.IsOwner`, `Record.Describes`,
`Record.Admits`, `Record.FollowsSchema`.
Key theorems: `Numeral.value_eq_integer`, `Owner.read_eq_ok`, `Record.read_object_eq_ok`,
`Record.exists_describes_iff`, `Record.follows_schema`.
-/
import ProxyConsole.Entity.Record
import ProxyConsole.Proofs.Members

namespace ProxyConsole

/-! ### Integers -/

namespace Numeral

/-- The integer that a numeral stands for. It has neither a fraction nor an exponent, is not
`-0`, and fits 64 bits, with a sign or without. -/
structure IsInteger (t : Numeral) (n : Int) : Prop where
  fraction : t.fraction = []
  exponent : t.exponent = none
  eq : n = if t.negative then -(Decimal.value t.whole : Int) else Decimal.value t.whole
  notMinusZero : t.negative = true → n ≠ 0
  ge : -0x8000000000000000 ≤ n
  le : n ≤ 0xFFFFFFFFFFFFFFFF

/-- Digits that are all taken up fit. -/
theorem le_of_absorb : ∀ (ds : List Nat) (n : Nat), n ≤ maxSignificand → (absorb n ds).2 = [] →
    ds.foldl (fun a d => a * 10 + d) n ≤ maxSignificand
  | [], _, hn, _ => hn
  | d :: ds, n, _, h => by
    rw [absorb] at h
    split at h
    · next hle => exact le_of_absorb ds _ hle h
    · cases h

/-- Digits are all taken up when their number fits. -/
theorem absorb_eq_iff {ds : List Nat} :
    (absorb 0 ds).2 = [] ↔ Decimal.value ds ≤ maxSignificand :=
  ⟨le_of_absorb ds 0 (Nat.zero_le _), fun h => by rw [absorb_of_le ds 0 h]⟩

theorem IsInteger.value_le {t : Numeral} {n : Int} (h : t.IsInteger n) :
    Decimal.value t.whole ≤ maxSignificand := by
  have heq := h.eq
  have hge := h.ge
  have hle := h.le
  unfold maxSignificand
  split at heq <;> omega

/-- **The numerals that are read as integers.** -/
theorem value_eq_integer {t : Numeral} {n : Int} :
    t.value = some (.integer n) ↔ t.IsInteger n := by
  unfold value
  dsimp only
  split
  · next hplain =>
    simp only [Bool.and_eq_true, List.isEmpty_iff, Option.isNone_iff_eq_none] at hplain
    obtain ⟨⟨hf, he⟩, hw⟩ := hplain
    have hle := absorb_eq_iff.mp hw
    have habsorb : absorb 0 t.whole = (Decimal.value t.whole, []) := absorb_of_le t.whole 0 hle
    rw [habsorb]
    unfold maxSignificand at hle
    dsimp only
    cases hneg : t.negative with
    | true =>
      rw [if_pos rfl]
      split
      · next hr =>
        simp only [Option.some.injEq, Number.integer.injEq]
        constructor
        · rintro rfl
          exact ⟨hf, he, by rw [hneg, if_pos rfl], fun _ => by omega, by omega, by omega⟩
        · intro h
          rw [h.eq, hneg, if_pos rfl]
      · next hr =>
        constructor
        · intro h
          obtain ⟨_, -, hd⟩ := Option.map_eq_some_iff.mp h
          cases hd
        · intro h
          have heq := h.eq
          have hge := h.ge
          have hne := h.notMinusZero hneg
          rw [hneg, if_pos rfl] at heq
          exact absurd ⟨by omega, by omega⟩ hr
    | false =>
      rw [if_neg Bool.false_ne_true]
      simp only [Option.some.injEq, Number.integer.injEq]
      constructor
      · rintro rfl
        exact ⟨hf, he, by rw [hneg, if_neg Bool.false_ne_true], fun h => by simp [hneg] at h,
          by omega, by omega⟩
      · intro h
        rw [h.eq, hneg, if_neg Bool.false_ne_true]
  · next hplain =>
    constructor
    · intro h
      obtain ⟨_, -, hd⟩ := Option.map_eq_some_iff.mp h
      cases hd
    · intro h
      rw [h.fraction, h.exponent, absorb_eq_iff.mpr h.value_le] at hplain
      exact absurd rfl hplain

end Numeral

namespace Outline

/-! ### The values that fields may have -/

def IsText (o : Outline) (s : String) : Prop :=
  ∃ t, o = .leaf (.string t) ∧ t.text = .ok s

def IsBool (o : Outline) (b : Bool) : Prop :=
  o = .leaf (.bool b)

def IsInteger (o : Outline) (n : Int) : Prop :=
  ∃ t, o = .leaf (.number t) ∧ t.IsInteger n

/-- A list of texts. -/
def IsTexts (o : Outline) (ss : List String) : Prop :=
  ∃ os, o = .array os .closed ∧ List.Forall₂ IsText os ss

/-- A protocol by its name, which may stand alone or as the name of an only member that is
`null`. -/
def IsProtocol (o : Outline) (p : Protocol) : Prop :=
  ∃ key : StringBody, key.text = .ok p.text ∧
    (o = .leaf (.string key) ∨ o = .object [(key, .leaf .null)] .closed)

/-- An owner: an object with its two fields, or an array of them. -/
def IsOwner (o : Outline) (w : Owner) : Prop :=
  (∃ ms g, o = .object ms .closed ∧ Named ms g ∧
    g.Tells "id" IsText none w.id ∧ g.Tells "email" IsText none w.email) ∨
  ∃ id email : Outline, o = .array [id, email] .closed ∧ id.IsText w.id ∧ email.IsText w.email

end Outline

namespace Decode

theorem string_eq_ok {o : Outline} {s : String} : string o = .ok s ↔ o.IsText s := by
  cases o with
  | leaf l => cases l <;> simp [string, Outline.IsText, wellFormed_eq_ok]
  | array os stop => simp [string, Outline.IsText]
  | object ms stop => simp [string, Outline.IsText]

theorem bool_eq_ok {o : Outline} {b : Bool} : bool o = .ok b ↔ o.IsBool b := by
  cases o with
  | leaf l => cases l <;> simp [bool, Outline.IsBool]
  | array os stop => simp [bool, Outline.IsBool]
  | object ms stop => simp [bool, Outline.IsBool]

theorem integer_eq_ok {lo hi : Int} {expected : String} {o : Outline} {n : Int} :
    integer lo hi expected o = .ok n ↔ o.IsInteger n ∧ lo ≤ n ∧ n ≤ hi := by
  cases o with
  | array os stop => simp [integer, Outline.IsInteger]
  | object ms stop => simp [integer, Outline.IsInteger]
  | leaf l =>
    cases l with
    | number t =>
      have hone : (Outline.leaf (.number t)).IsInteger n ↔ t.value = some (.integer n) := by
        simp [Outline.IsInteger, Numeral.value_eq_integer]
      rw [hone, integer, number]
      cases t.value with
      | none => simp [Outline.bind_eq_ok, wellFormed_eq_ok]
      | some v =>
        cases v with
        | double x => simp [Outline.bind_eq_ok, wellFormed_eq_ok]
        | integer i =>
          rw [Outline.bind_eq_ok]
          simp only [wellFormed_eq_ok, Except.ok.injEq, exists_eq_left', Option.some.injEq,
            Number.integer.injEq]
          split
          · next hr => simpa using fun h => h ▸ hr
          · next hr => simpa using fun h hlo => by omega
    | _ => simp [integer, Outline.IsInteger]

theorem uint16_eq_ok {o : Outline} {n : UInt16} : uint16 o = .ok n ↔ o.IsInteger n.toNat := by
  have hlt := n.toNat_lt
  rw [uint16, map_eq_ok]
  simp only [integer_eq_ok]
  constructor
  · rintro ⟨i, ⟨hi, hlo, hhi⟩, rfl⟩
    have hn : ((UInt16.ofNat i.toNat).toNat : Int) = i := by
      rw [UInt16.toNat_ofNat_of_lt' (by unfold UInt16.size; omega), Int.toNat_of_nonneg hlo]
    rwa [hn]
  · intro h
    exact ⟨n.toNat, ⟨h, by omega, by omega⟩, by rw [Int.toNat_natCast, UInt16.ofNat_toNat]⟩

theorem int64_eq_ok {o : Outline} {n : Int64} : int64 o = .ok n ↔ o.IsInteger n.toInt := by
  have hlo := n.le_toInt
  have hhi := n.toInt_lt
  rw [int64, map_eq_ok]
  simp only [integer_eq_ok]
  constructor
  · rintro ⟨i, ⟨hi, hlo, hhi⟩, rfl⟩
    rwa [Int64.toInt_ofInt_of_le (by omega) (by omega)]
  · intro h
    exact ⟨n.toInt, ⟨h, by omega, by omega⟩, Int64.ofInt_toInt n⟩

theorem each_eq_ok {read : Outline → Except Mistake α} {is : Outline → α → Prop}
    (h : ∀ o a, read o = .ok a ↔ is o a) : ∀ {os : List Outline} {vs : List α},
    each read os = .ok vs ↔ List.Forall₂ is os vs
  | [], vs => by simp [each, eq_comm]
  | o :: os, vs => by
    rw [each, List.forall₂_cons_left_iff, Outline.bind_eq_ok]
    simp only [Outline.bind_eq_ok, each_eq_ok h, h, pure, Except.pure, Except.ok.injEq]
    constructor
    · rintro ⟨a, ha, vs, hvs, rfl⟩
      exact ⟨a, vs, ha, hvs, rfl⟩
    · rintro ⟨a, vs, ha, hvs, rfl⟩
      exact ⟨a, ha, vs, hvs, rfl⟩

theorem texts_eq_ok {o : Outline} {ss : List String} : list string o = .ok ss ↔ o.IsTexts ss := by
  cases o with
  | leaf l => cases l <;> simp [list, Outline.IsTexts]
  | object ms stop => simp [list, Outline.IsTexts]
  | array os stop =>
    rw [list, Outline.bind_eq_ok]
    simp only [each_eq_ok fun _ _ => string_eq_ok, Form.check_bind_eq_ok, wellFormed_eq_ok, pure,
      Except.pure, Except.ok.injEq]
    constructor
    · rintro ⟨_, hvs, hstop, rfl⟩
      exact ⟨os, by rw [Outline.items_closed hstop], hvs⟩
    · rintro ⟨_, he, hvs⟩
      cases he
      exact ⟨_, hvs, rfl, rfl⟩

end Decode

/-! ### Fields of a plain type -/

namespace Form

/-- A field for a text is told of by the texts of its name. -/
theorem tells_text (form : Form) (f : Field String) (hf : f.rule ∈ form.fields)
    (hr : f.read = Decode.string) {g : Given} {a : String} :
    f.Tells (form.among g) a ↔ g.Tells f.name Outline.IsText f.default a :=
  tells_among hf fun _ _ _ => by rw [hr, Decode.string_eq_ok]

/-- A field for an instant is told of by the integers of its name. -/
theorem tells_instant (form : Form) (f : Field Int64) (hf : f.rule ∈ form.fields)
    (hr : f.read = Decode.int64) {g : Given} {a : Int64} :
    f.Tells (form.among g) a ↔ g.Tells f.name (fun o n => o.IsInteger n.toInt) f.default a :=
  tells_among hf fun _ _ _ => by rw [hr, Decode.int64_eq_ok]

end Form

/-! ### Protocols and owners -/

namespace Protocol

theorem named_eq_ok {s : String} {p : Protocol} : named s = .ok p ↔ s = p.text := by
  unfold named ofName?
  by_cases h₁ : s = "http"
  · subst h₁
    cases p <;> simp [text]
  · by_cases h₂ : s = "https"
    · subst h₂
      cases p <;> simp [text]
    · cases p <;> simp [text, h₁, h₂]

theorem keyed_eq_ok {key : StringBody} {p : Protocol} : keyed key = .ok p ↔ key.text = .ok p.text := by
  rw [keyed, Outline.bind_eq_ok]
  simp [Decode.wellFormed_eq_ok, named_eq_ok]

theorem unit_eq_ok {o : Outline} : Decode.unit o = .ok () ↔ o = .leaf .null := by
  cases o with
  | leaf l => cases l <;> simp [Decode.unit]
  | array os stop => simp [Decode.unit]
  | object ms stop => simp [Decode.unit]

/-- **The values that are read as a protocol.** -/
theorem read_eq_ok {o : Outline} {p : Protocol} : read o = .ok p ↔ o.IsProtocol p := by
  cases o with
  | array os stop => simp [read, Outline.IsProtocol]
  | leaf l =>
    cases l with
    | string t =>
      have hread : read (.leaf (.string t)) = keyed t := rfl
      rw [hread, keyed_eq_ok]
      simp [Outline.IsProtocol]
    | broken f => cases f <;> simp [read, Outline.IsProtocol]
    | _ => simp [read, Outline.IsProtocol]
  | object ms stop =>
    match ms with
    | [] => simp [read, Outline.IsProtocol]
    | (key, o) :: ms =>
      rw [read, Outline.bind_eq_ok]
      simp only [Form.check_bind_eq_ok, keyed_eq_ok, unit_eq_ok]
      constructor
      · rintro ⟨q, hkey, rfl, h⟩
        split at h
        · cases h
          exact ⟨key, hkey, .inr rfl⟩
        · cases h
        · cases h
      · rintro ⟨_, hkey, he | he⟩
        · cases he
        · cases he
          exact ⟨p, hkey, rfl, rfl⟩

end Protocol

namespace Owner

/-- An owner is told of a row by its two fields. -/
theorem tells_iff {g : Given} {w : Owner} :
    ((∀ rule ∈ form.fields, rule.Fits (form.among g)) ∧
      (do return { id := ← idField.get (form.among g), email := ← emailField.get (form.among g) } :
        Except Mistake Owner) = .ok w) ↔
      g.Tells "id" Outline.IsText none w.id ∧ g.Tells "email" Outline.IsText none w.email := by
  have hid : idField.Tells (form.among g) w.id ↔ g.Tells "id" Outline.IsText none w.id :=
    form.tells_text idField (by simp [form]) rfl
  have hemail : emailField.Tells (form.among g) w.email ↔
      g.Tells "email" Outline.IsText none w.email :=
    form.tells_text emailField (by simp [form]) rfl
  have hfields : form.fields = [idField.rule, emailField.rule] := rfl
  rw [hfields, ← hid, ← hemail]
  simp only [Field.tells_bind]
  constructor
  · rintro ⟨id, h₁, email, h₂, -, h⟩
    cases h
    exact ⟨h₁, h₂⟩
  · rintro ⟨h₁, h₂⟩
    exact ⟨_, h₁, _, h₂, List.forall_mem_nil _, rfl⟩

/-- An array of two texts is read as an owner, and no other array is. -/
theorem read_array_eq_ok {os : List Outline} {stop : ItemsEnd} {w : Owner} :
    Owner.read (.array os stop) = .ok w ↔
      ∃ id email : Outline, os = [id, email] ∧ stop = .closed ∧ id.IsText w.id ∧
        email.IsText w.email := by
  have hstop : Decode.orElse stop.finalMistake = .ok () ↔ stop = .closed := by
    cases stop <;> simp [Decode.orElse, ItemsEnd.finalMistake]
  have hread : Owner.read (.array os stop) =
      (form.collectItems stop [] [idField.rule, emailField.rule] os >>= fun g => do
        return { id := ← idField.get g, email := ← emailField.get g }) := rfl
  rw [hread, Outline.bind_eq_ok]
  obtain _ | ⟨id, _ | ⟨email, _ | ⟨o, os⟩⟩⟩ := os
  · simp [Form.collectItems, Form.check_bind_eq_ok, Form.checkLength, Field.rule, idField]
  · simp [Form.collectItems, Form.check_bind_eq_ok, Form.checkLength, Field.rule, emailField]
  · constructor
    · rintro ⟨_, hg, hb⟩
      obtain ⟨-, hg⟩ := Form.check_bind_eq_ok.mp hg
      obtain ⟨-, hg⟩ := Form.check_bind_eq_ok.mp hg
      obtain ⟨hend, hg⟩ := Form.check_bind_eq_ok.mp hg
      cases hg
      obtain ⟨_, hid, hb⟩ := Outline.bind_eq_ok.mp hb
      obtain ⟨_, hemail, hb⟩ := Outline.bind_eq_ok.mp hb
      cases hb
      exact ⟨id, email, rfl, hstop.mp (Decode.wellFormed_eq_ok.mp hend),
        Decode.string_eq_ok.mp hid, Decode.string_eq_ok.mp hemail⟩
    · rintro ⟨_, _, he, rfl, hid, hemail⟩
      cases he
      have hid := Decode.string_eq_ok.mpr hid
      have hemail := Decode.string_eq_ok.mpr hemail
      refine ⟨[("id", id), ("email", email)], ?_, ?_⟩
      · exact Form.check_bind_eq_ok.mpr ⟨idField.check_rule hid,
          Form.check_bind_eq_ok.mpr ⟨emailField.check_rule hemail, rfl⟩⟩
      · exact Outline.bind_eq_ok.mpr ⟨_, hid, Outline.bind_eq_ok.mpr ⟨_, hemail, rfl⟩⟩
  · simp [Form.collectItems, Form.check_bind_eq_ok]

/-- **The values that are read as an owner.** -/
theorem read_eq_ok {o : Outline} {w : Owner} (hs : o.skip = .ok ()) :
    Owner.read o = .ok w ↔ o.IsOwner w := by
  cases o with
  | leaf l =>
    have hread : Owner.read (.leaf l) = .error ((Outline.leaf l).refusal "struct Owner") := rfl
    simp [hread, Outline.IsOwner]
  | array os stop =>
    rw [read_array_eq_ok]
    constructor
    · rintro ⟨id, email, rfl, rfl, hid, hemail⟩
      exact .inr ⟨id, email, rfl, hid, hemail⟩
    · rintro (⟨_, _, he, -⟩ | ⟨id, email, he, hid, hemail⟩)
      · cases he
      · cases he
        exact ⟨id, email, rfl, rfl, hid, hemail⟩
  | object ms stop =>
    obtain ⟨hms, rfl⟩ := Outline.skip_object.mp hs
    rw [Owner.read, Form.read_object_iff (by decide) hms]
    simp only [tells_iff]
    constructor
    · rintro ⟨g, hg, htells⟩
      exact .inl ⟨ms, g, rfl, hg, htells⟩
    · rintro (⟨_, g, he, hg, htells⟩ | ⟨_, _, he, -⟩)
      · cases he
        exact ⟨g, hg, htells⟩
      · cases he

end Owner

/-! ### Records -/

namespace Record

/-- A row of fields describes a record: it tells of each of the ten fields, and may leave out
those that have a default. -/
structure Describes (g : Given) (r : Record) : Prop where
  id : g.Tells "id" Outline.IsText none r.id
  fqdn : g.Tells "fqdn" Outline.IsText none r.fqdn
  handlerHost : g.Tells "handler_host" Outline.IsText none r.handlerHost
  handlerPort : g.Tells "handler_port" (fun o n => o.IsInteger n.toNat) none r.handlerPort
  handlerProtocol : g.Tells "handler_protocol" Outline.IsProtocol none r.handlerProtocol
  owner : g.Tells "owner" Outline.IsOwner (some ⟨"", ""⟩) r.owner
  clients : g.Tells "clients" Outline.IsTexts (some []) r.clients
  blacklist : g.Tells "blacklist" Outline.IsBool (some false) r.blacklist
  createdAt : g.Tells "created_at" (fun o n => o.IsInteger n.toInt) (some 0) r.createdAt
  updatedAt : g.Tells "updated_at" (fun o n => o.IsInteger n.toInt) (some 0) r.updatedAt

theorem describes_iff {g : Given} (hs : ∀ f ∈ g, f.2.skip = .ok ()) {r : Record} :
    (∀ rule ∈ form.fields, rule.Fits (form.among g)) ∧ build (form.among g) = .ok r ↔
      Describes g r := by
  have port (a : UInt16) : handlerPortField.Tells (form.among g) a ↔
      g.Tells "handler_port" (fun o n => o.IsInteger n.toNat) none a :=
    Form.tells_among (by simp [form]) fun _ _ _ => Decode.uint16_eq_ok
  have protocol (a : Protocol) : handlerProtocolField.Tells (form.among g) a ↔
      g.Tells "handler_protocol" Outline.IsProtocol none a :=
    Form.tells_among (by simp [form]) fun _ _ _ => Protocol.read_eq_ok
  have owner (a : Owner) : ownerField.Tells (form.among g) a ↔
      g.Tells "owner" Outline.IsOwner (some ⟨"", ""⟩) a :=
    Form.tells_among (by simp [form]) fun o ho _ => Owner.read_eq_ok (hs (_, o) ho)
  have clients (a : List String) : clientsField.Tells (form.among g) a ↔
      g.Tells "clients" Outline.IsTexts (some []) a :=
    Form.tells_among (by simp [form]) fun _ _ _ => Decode.texts_eq_ok
  have blacklist (a : Bool) : blacklistField.Tells (form.among g) a ↔
      g.Tells "blacklist" Outline.IsBool (some false) a :=
    Form.tells_among (by simp [form]) fun _ _ _ => Decode.bool_eq_ok
  have hfields : form.fields = [idField.rule, fqdnField.rule, handlerHostField.rule,
      handlerPortField.rule, handlerProtocolField.rule, ownerField.rule, clientsField.rule,
      blacklistField.rule, createdAtField.rule, updatedAtField.rule] := rfl
  rw [build, hfields]
  simp only [Field.tells_bind, port, protocol, owner, clients, blacklist,
    form.tells_text idField (by simp [form]) rfl,
    form.tells_text fqdnField (by simp [form]) rfl,
    form.tells_text handlerHostField (by simp [form]) rfl,
    form.tells_instant createdAtField (by simp [form]) rfl,
    form.tells_instant updatedAtField (by simp [form]) rfl]
  constructor
  · rintro ⟨id, h₁, fqdn, h₂, host, h₃, port, h₄, protocol, h₅, owner, h₆, clients, h₇,
      blacklist, h₈, created, h₉, updated, h₁₀, -, h⟩
    cases h
    exact ⟨h₁, h₂, h₃, h₄, h₅, h₆, h₇, h₈, h₉, h₁₀⟩
  · rintro ⟨h₁, h₂, h₃, h₄, h₅, h₆, h₇, h₈, h₉, h₁₀⟩
    exact ⟨_, h₁, _, h₂, _, h₃, _, h₄, _, h₅, _, h₆, _, h₇, _, h₈, _, h₉, _, h₁₀,
      List.forall_mem_nil _, rfl⟩

/-- **The objects that are read as a record.** -/
theorem read_object_eq_ok {ms : List (StringBody × Outline)} (hs : Outline.skipMembers ms = .ok ())
    {r : Record} :
    Record.read (.object ms .closed) = .ok r ↔ ∃ g, Outline.Named ms g ∧ Describes g r := by
  rw [Record.read, Form.read_object_iff (by decide) hs]
  exact exists_congr fun g => and_congr_right fun hg => describes_iff (hg.skip hs)

/-- A row of fields that a record can be read from: none of the ten stands in it twice, the
five without a default stand in it, and each that stands in it has a value of its type. -/
structure Admits (g : Given) : Prop where
  once : ∀ name ∈ form.fields.map (·.name), (g.values name).length ≤ 1
  present : ∀ name ∈ ["id", "fqdn", "handler_host", "handler_port", "handler_protocol"],
    g.values name ≠ []
  texts : ∀ name ∈ ["id", "fqdn", "handler_host"], ∀ o, (name, o) ∈ g → ∃ s, o.IsText s
  port : ∀ o, ("handler_port", o) ∈ g → ∃ n, o.IsInteger n ∧ 0 ≤ n ∧ n ≤ 0xFFFF
  protocol : ∀ o, ("handler_protocol", o) ∈ g → ∃ p, o.IsProtocol p
  owner : ∀ o, ("owner", o) ∈ g → ∃ w, o.IsOwner w
  clients : ∀ o, ("clients", o) ∈ g → ∃ ss, o.IsTexts ss
  blacklist : ∀ o, ("blacklist", o) ∈ g → ∃ b, o.IsBool b
  instants : ∀ name ∈ ["created_at", "updated_at"], ∀ o, (name, o) ∈ g →
    ∃ n, o.IsInteger n ∧ -0x8000000000000000 ≤ n ∧ n ≤ 0x7FFFFFFFFFFFFFFF

theorem exists_port_iff {o : Outline} : (∃ n : UInt16, o.IsInteger n.toNat) ↔
    ∃ n, o.IsInteger n ∧ 0 ≤ n ∧ n ≤ 0xFFFF := by
  simp only [← Decode.uint16_eq_ok, Decode.uint16, Decode.map_eq_ok, Decode.integer_eq_ok]
  constructor
  · rintro ⟨_, n, hn, -⟩
    exact ⟨n, hn⟩
  · rintro ⟨n, hn⟩
    exact ⟨_, n, hn, rfl⟩

theorem exists_instant_iff {o : Outline} : (∃ n : Int64, o.IsInteger n.toInt) ↔
    ∃ n, o.IsInteger n ∧ -0x8000000000000000 ≤ n ∧ n ≤ 0x7FFFFFFFFFFFFFFF := by
  simp only [← Decode.int64_eq_ok, Decode.int64, Decode.map_eq_ok, Decode.integer_eq_ok]
  constructor
  · rintro ⟨_, n, hn, -⟩
    exact ⟨n, hn⟩
  · rintro ⟨n, hn⟩
    exact ⟨_, n, hn, rfl⟩

/-- **A row describes some record exactly when it admits one.** -/
theorem exists_describes_iff {g : Given} : (∃ r, Describes g r) ↔ Admits g := by
  have hten : (∃ r, Describes g r) ↔
      (∃ a, g.Tells "id" Outline.IsText none a) ∧ (∃ a, g.Tells "fqdn" Outline.IsText none a) ∧
      (∃ a, g.Tells "handler_host" Outline.IsText none a) ∧
      (∃ a, g.Tells "handler_port" (fun o (n : UInt16) => o.IsInteger n.toNat) none a) ∧
      (∃ a, g.Tells "handler_protocol" Outline.IsProtocol none a) ∧
      (∃ a, g.Tells "owner" Outline.IsOwner (some ⟨"", ""⟩) a) ∧
      (∃ a, g.Tells "clients" Outline.IsTexts (some []) a) ∧
      (∃ a, g.Tells "blacklist" Outline.IsBool (some false) a) ∧
      (∃ a, g.Tells "created_at" (fun o (n : Int64) => o.IsInteger n.toInt) (some 0) a) ∧
      (∃ a, g.Tells "updated_at" (fun o (n : Int64) => o.IsInteger n.toInt) (some 0) a) := by
    constructor
    · rintro ⟨r, h⟩
      exact ⟨⟨_, h.id⟩, ⟨_, h.fqdn⟩, ⟨_, h.handlerHost⟩, ⟨_, h.handlerPort⟩,
        ⟨_, h.handlerProtocol⟩, ⟨_, h.owner⟩, ⟨_, h.clients⟩, ⟨_, h.blacklist⟩,
        ⟨_, h.createdAt⟩, ⟨_, h.updatedAt⟩⟩
    · rintro ⟨⟨_, h₁⟩, ⟨_, h₂⟩, ⟨_, h₃⟩, ⟨_, h₄⟩, ⟨_, h₅⟩, ⟨_, h₆⟩, ⟨_, h₇⟩, ⟨_, h₈⟩, ⟨_, h₉⟩, ⟨_, h₁₀⟩⟩
      exact ⟨⟨_, _, _, _, _, _, _, _, _, _⟩, h₁, h₂, h₃, h₄, h₅, h₆, h₇, h₈, h₉, h₁₀⟩
  have hnames : form.fields.map (·.name) = ["id", "fqdn", "handler_host", "handler_port",
      "handler_protocol", "owner", "clients", "blacklist", "created_at", "updated_at"] := rfl
  rw [hten]
  simp only [Given.exists_tells_iff, exists_port_iff, exists_instant_iff, reduceCtorEq,
    false_implies, true_and, true_implies]
  constructor
  · rintro ⟨h₁, h₂, h₃, h₄, h₅, h₆, h₇, h₈, h₉, h₁₀⟩
    refine ⟨?_, ?_, ?_, h₄.2.2, h₅.2.2, h₆.2, h₇.2, h₈.2, ?_⟩
    · rw [hnames]
      simp only [List.forall_mem_cons, List.not_mem_nil, false_implies, implies_true, and_true]
      exact ⟨h₁.1, h₂.1, h₃.1, h₄.1, h₅.1, h₆.1, h₇.1, h₈.1, h₉.1, h₁₀.1⟩
    · simp only [List.forall_mem_cons, List.not_mem_nil, false_implies, implies_true, and_true]
      exact ⟨h₁.2.1, h₂.2.1, h₃.2.1, h₄.2.1, h₅.2.1⟩
    · simp only [List.forall_mem_cons, List.not_mem_nil, false_implies, implies_true, and_true]
      exact ⟨h₁.2.2, h₂.2.2, h₃.2.2⟩
    · simp only [List.forall_mem_cons, List.not_mem_nil, false_implies, implies_true, and_true]
      exact ⟨h₉.2, h₁₀.2⟩
  · rintro ⟨once, present, texts, port, protocol, owner, clients, blacklist, instants⟩
    rw [hnames] at once
    simp only [List.forall_mem_cons, List.not_mem_nil, false_implies, implies_true,
      and_true] at once present texts instants
    obtain ⟨o₁, o₂, o₃, o₄, o₅, o₆, o₇, o₈, o₉, o₁₀⟩ := once
    obtain ⟨p₁, p₂, p₃, p₄, p₅⟩ := present
    exact ⟨⟨o₁, p₁, texts.1⟩, ⟨o₂, p₂, texts.2.1⟩, ⟨o₃, p₃, texts.2.2⟩, ⟨o₄, p₄, port⟩,
      ⟨o₅, p₅, protocol⟩, ⟨o₆, owner⟩, ⟨o₇, clients⟩, ⟨o₈, blacklist⟩, ⟨o₉, instants.1⟩,
      ⟨o₁₀, instants.2⟩⟩

/-- Rows with the same fields of a record, in whatever order, describe the same record. -/
theorem Describes.perm {g g' : Given} {r : Record} (h : Describes g r)
    (hp : (form.among g).Perm (form.among g')) : Describes g' r := by
  have hvalues (name : String) (hn : (form.field? name).isSome = true) :
      (g.values name).Perm (g'.values name) := by
    rw [← Form.values_among hn g, ← Form.values_among hn g']
    exact Given.values_perm hp name
  exact ⟨h.id.perm (hvalues _ rfl), h.fqdn.perm (hvalues _ rfl), h.handlerHost.perm (hvalues _ rfl),
    h.handlerPort.perm (hvalues _ rfl), h.handlerProtocol.perm (hvalues _ rfl),
    h.owner.perm (hvalues _ rfl), h.clients.perm (hvalues _ rfl), h.blacklist.perm (hvalues _ rfl),
    h.createdAt.perm (hvalues _ rfl), h.updatedAt.perm (hvalues _ rfl)⟩

/-- A text of an object, whose members are the fields of a row, is read by the schema of a
record. It is read as the record that the row describes, and it is read when the row admits
one. Every text of an object with the same fields of a record, in whatever order and with
whatever else among them, is then read as the same record. -/
structure FollowsSchema (bs : List UInt8) (g : Given) : Prop where
  ok_iff : ∀ r, Decode.document Record.read bs = .ok r ↔ Describes g r
  succeeds_iff : (∃ r, Decode.document Record.read bs = .ok r) ↔ Admits g
  order_free : ∀ r, Decode.document Record.read bs = .ok r → ∀ bs' ms' g',
    (Outline.object ms' .closed).Padded bs' → Outline.Named ms' g' →
    (form.among g).Perm (form.among g') → Decode.document Record.read bs' = .ok r

theorem document_eq_ok {ms : List (StringBody × Outline)} {g : Given} {bs : List UInt8}
    (hbs : (Outline.object ms .closed).Padded bs) (hg : Outline.Named ms g) {r : Record} :
    Decode.document Record.read bs = .ok r ↔ Describes g r := by
  have hs := (Outline.skip_object.mp (Outline.skip_of_padded hbs)).1
  rw [Decode.document_of_padded hbs, read_object_eq_ok hs]
  constructor
  · rintro ⟨g', hg', h⟩
    exact hg.unique hg' ▸ h
  · exact fun h => ⟨g, hg, h⟩

/-- **A record is read by its schema, whatever the order.** -/
theorem follows_schema {ms : List (StringBody × Outline)} {g : Given} {bs : List UInt8}
    (hbs : (Outline.object ms .closed).Padded bs) (hg : Outline.Named ms g) :
    FollowsSchema bs g where
  ok_iff _ := document_eq_ok hbs hg
  succeeds_iff := by simp only [document_eq_ok hbs hg, exists_describes_iff]
  order_free _ h _ _ _ hbs' hg' hp :=
    (document_eq_ok hbs' hg').mpr (((document_eq_ok hbs hg).mp h).perm hp)

/-- A record with its members out of order, a name with an escape in it, a protocol and an
owner in their other forms, and a member twice that is no field. -/
def shuffledText : List UInt8 :=
  Utf8.bytes ("\x7b\"handler_port\":443,\"x\":[],\"owner\":[\"u\",\"e\"],\"f\\u0071dn\":\"a.b\"," ++
    "\"x\":null,\"handler_protocol\":\x7b\"https\":null\x7d,\"handler_host\":\"h\"," ++
    "\"updated_at\":-5,\"id\":\"r-1\"\x7d")

theorem follows_schema_shuffled : ∃ ms g, (Outline.object ms .closed).Padded shuffledText ∧
    Outline.Named ms g ∧ FollowsSchema shuffledText g ∧
    Describes g ⟨"r-1", "a.b", "h", 443, .https, ⟨"u", "e"⟩, [], false, 0, -5⟩ := by
  have hread : Decode.document Record.read shuffledText =
      .ok ⟨"r-1", "a.b", "h", 443, .https, ⟨"u", "e"⟩, [], false, 0, -5⟩ := by
    decide +kernel
  have hobject : (match (Outline.read shuffledText).1 with
      | .object ms .closed => decide (Outline.skipMembers ms = .ok ())
      | _ => false) = true := by
    decide +kernel
  obtain ⟨o, ho, hr⟩ := Decode.document_eq_ok.mp hread
  rw [ho] at hobject
  split at hobject
  · next ms he =>
    obtain rfl : o = .object ms .closed := he
    have hms : Outline.skipMembers ms = .ok () := of_decide_eq_true hobject
    have hpadded := Outline.read_iff_padded.mp ⟨ho, Outline.skip_object.mpr ⟨hms, rfl⟩⟩
    obtain ⟨g, hg, hdescribes⟩ := (read_object_eq_ok hms).mp hr
    exact ⟨ms, g, hpadded, hg, follows_schema hpadded hg, hdescribes⟩
  · cases hobject

end Record

end ProxyConsole
