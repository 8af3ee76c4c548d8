/-
# Tokens that are minted are read back

A minted token has a header, the claims and a signature with dots between them. The
claims stand in it as a compact object of the members that are there, in any order,
in Base64 for URLs, with or without padding. Whatever blank characters stand around
it, it is read as a token with these claims and no others.

Key definitions: `Claims.members`, `Token.mint`.
Key theorems: `Form.collect_object`, `Claims.read_members`, `Token.read_mint`.
-/
import ProxyConsole.Proofs.Base64
import ProxyConsole.Proofs.Compact
import ProxyConsole.Proofs.Members
import ProxyConsole.Proofs.Trim
import ProxyConsole.Token

namespace ProxyConsole

/-! ### Fields that a text gives in any order -/

namespace Given

/-- Of fields with names of their own each has the value that the text gives it. -/
theorem value?_eq_some {g : Given} {name : String} {o : Outline} (hn : (g.map (·.1)).Nodup) :
    g.value? name = some o ↔ (name, o) ∈ g := by
  have hone := length_values_le hn name
  rw [value?_eq_head?, ← mem_values]
  match g.values name, hone with
  | [], _ => simp
  | [v], _ => simp [eq_comm]

/-- The order of the fields does not matter. -/
theorem value?_perm {g g' : Given} (hp : g.Perm g') (hn : (g.map (·.1)).Nodup) (name : String) :
    g.value? name = g'.value? name := by
  have hn' : (g'.map (·.1)).Nodup := (hp.map _).nodup hn
  refine Option.ext fun o => ?_
  rw [value?_eq_some hn, value?_eq_some hn', hp.mem_iff]

end Given

namespace Json

/-- The fields that the members of an object give. -/
def given (ms : List (String × Json)) : Given :=
  ms.map fun m => (m.1, m.2.outline)

theorem names_given (ms : List (String × Json)) : (given ms).map (·.1) = ms.map (·.1) := by
  simp [given]

/-- The names of the members of a value are read as they are. -/
theorem named_outlineMembers : ∀ {ms : List (String × Json)},
    Outline.Named (outlineMembers ms) (given ms)
  | [] => Outline.named_nil.mpr rfl
  | (k, v) :: ms => by
    rw [outlineMembers]
    exact Outline.named_cons.mpr ⟨k, given ms, StringBody.text_ofText k, named_outlineMembers, rfl⟩

theorem areProperMembers_iff : ∀ {ms : List (String × Json)},
    areProperMembers ms = true ↔ ∀ m ∈ ms, m.2.isProper = true
  | [] => by simp [areProperMembers]
  | m :: ms => by simp [areProperMembers, @areProperMembers_iff ms]

end Json

namespace Form

/-- A form accepts a member of an object that is a field with a value it accepts, or no
field at all and can be skipped. -/
def Accepts (form : Form) (m : String × Json) : Prop :=
  match form.field? m.1 with
  | some f => f.check m.2.outline = .ok ()
  | none => m.2.outline.skip = .ok ()

/-- The members that are fields of the form. -/
def known (form : Form) (ms : List (String × Json)) : List (String × Json) :=
  ms.filter fun m => (form.field? m.1).isSome

/-- The fields of the form among the members. -/
theorem among_given (form : Form) (ms : List (String × Json)) :
    form.among (Json.given ms) = Json.given (form.known ms) := by
  rw [among, Json.given, List.filter_map]
  rfl

/-- **Of an object whose members a form accepts, with all that are required among them, the
fields are what the text gives.** -/
theorem collect_accepted {form : Form} {ms : List (String × Json)} (hn : (ms.map (·.1)).Nodup)
    (ha : ∀ m ∈ ms, form.Accepts m)
    (hr : ∀ f ∈ form.fields, f.required = true → f.name ∈ (form.known ms).map (·.1)) :
    form.collect (Json.object ms).outline = .ok (Json.given (form.known ms)) := by
  have htakes : ∀ f ∈ Json.given ms, form.Takes f := by
    intro f hf
    obtain ⟨m, hm, rfl⟩ := List.mem_map.mp hf
    exact ha m hm
  have honce : form.Once (Json.given ms) := fun rule _ =>
    Given.length_values_le (by rwa [Json.names_given]) rule.name
  have hcomplete : ∀ rule ∈ form.fields, rule.required = true →
      (Json.given ms).values rule.name ≠ [] := by
    intro rule hrule hreq
    obtain ⟨m, hm, he⟩ := List.mem_map.mp (hr rule hrule hreq)
    have hgiven : (rule.name, m.2.outline) ∈ Json.given ms :=
      List.mem_map.mpr ⟨m, List.mem_of_mem_filter hm, by rw [he]⟩
    exact List.ne_nil_of_mem (Given.mem_values.mpr hgiven)
  rw [Json.outline]
  exact collect_object_iff.mpr ⟨rfl, Json.given ms, Json.named_outlineMembers,
    ⟨htakes, honce, hcomplete⟩, (among_given form ms).symm⟩

/-- **An object whose members are fields of the form, with all that are required among
them, gives its members.** -/
theorem collect_object {form : Form} {ms : List (String × Json)} (hn : (ms.map (·.1)).Nodup)
    (hf : ∀ m ∈ ms, ∃ f, form.field? m.1 = some f ∧ f.check m.2.outline = .ok ())
    (hr : ∀ f ∈ form.fields, f.required = true → f.name ∈ ms.map (·.1)) :
    form.collect (Json.object ms).outline = .ok (Json.given ms) := by
  have hknown : form.known ms = ms := by
    refine List.filter_eq_self.mpr fun m hm => ?_
    obtain ⟨f, hmf, -⟩ := hf m hm
    rw [hmf]
    rfl
  have ha : ∀ m ∈ ms, form.Accepts m := by
    intro m hm
    obtain ⟨f, hmf, hv⟩ := hf m hm
    simp only [Accepts, hmf]
    exact hv
  have hc := collect_accepted hn ha (by rwa [hknown])
  rw [hknown] at hc
  exact hc

end Form

/-! ### The claims as members of an object -/

namespace Claims

/-- The members of an object with the claims that there are. -/
def members (c : Claims) : List (String × Json) :=
  (c.iat.map fun n => ("iat", Json.int n.toInt)).toList ++
    ((c.exp.map fun n => ("exp", Json.int n.toInt)).toList ++
      (c.id.map fun v => ("id", v)).toList)

/-- For whom a token can be issued: any value that a text can hold within the claims,
other than `null`. -/
def IsSubject (v : Json) : Prop :=
  v ≠ .null ∧ v.isProper = true ∧ v.depth < Outline.maxDepth

theorem int64_outline (n : Int64) : Decode.int64 (Json.int n.toInt).outline = .ok n := by
  have hlo := n.le_toInt
  have hhi := n.toInt_lt
  have hv : (Numeral.ofInt n.toInt).value = some (.integer n.toInt) :=
    Numeral.value_ofInt (by omega) (by omega)
  have hr : (-0x8000000000000000 : Int) ≤ n.toInt ∧ n.toInt ≤ 0x7FFFFFFFFFFFFFFF := by omega
  rw [Json.int, Json.outline, Number.outline, Decode.int64, Decode.integer, Decode.number, hv]
  simp only [Decode.wellFormed, Except.mapError, bind, Except.bind, if_pos hr, Except.map,
    Int64.ofInt_toInt]

theorem instant_outline (n : Int64) :
    Decode.optional Decode.int64 (Json.int n.toInt).outline = .ok (some n) := by
  have hi := int64_outline n
  rw [Json.int, Json.outline, Number.outline] at hi ⊢
  rw [Decode.optional, hi]
  · rfl
  · exact fun h => by cases h

theorem subject_outline {v : Json} (h : IsSubject v) :
    Decode.optional (Decode.value (Outline.maxDepth - 1)) v.outline = .ok (some v) := by
  have hj : Decode.value (Outline.maxDepth - 1) v.outline = .ok v := by
    rw [Decode.value, Json.toJson_outline h.2.1 (Nat.le_sub_one_of_lt h.2.2)]
    rfl
  rw [Decode.optional, hj]
  · rfl
  · intro hnull
    rw [hnull] at hj
    cases hj
    exact h.1 rfl

/-! Each field among the claims that there are. -/

theorem names_members (c : Claims) : (c.members.map (·.1)).Nodup := by
  obtain ⟨iat, exp, id⟩ := c
  cases iat <;> cases exp <;> cases id <;> simp [members]

theorem value?_iat (c : Claims) : (Json.given c.members).value? "iat" =
    c.iat.map fun n => (Json.int n.toInt).outline := by
  obtain ⟨iat, exp, id⟩ := c
  cases iat <;> cases exp <;> cases id <;> rfl

theorem value?_exp (c : Claims) : (Json.given c.members).value? "exp" =
    c.exp.map fun n => (Json.int n.toInt).outline := by
  obtain ⟨iat, exp, id⟩ := c
  cases iat <;> cases exp <;> cases id <;> rfl

theorem value?_id (c : Claims) : (Json.given c.members).value? "id" = c.id.map (·.outline) := by
  obtain ⟨iat, exp, id⟩ := c
  cases iat <;> cases exp <;> cases id <;> rfl

/-- What a member of the claims is. -/
theorem mem_members {c : Claims} {m : String × Json} (h : m ∈ c.members) :
    (∃ n : Int64, m = ("iat", Json.int n.toInt)) ∨ (∃ n : Int64, m = ("exp", Json.int n.toInt)) ∨
      ∃ v, c.id = some v ∧ m = ("id", v) := by
  simp only [members, List.mem_append, Option.mem_toList,
    Option.map_eq_some_iff] at h
  obtain ⟨n, -, rfl⟩ | ⟨n, -, rfl⟩ | ⟨v, hv, rfl⟩ := h
  · exact .inl ⟨n, rfl⟩
  · exact .inr (.inl ⟨n, rfl⟩)
  · exact .inr (.inr ⟨v, hv, rfl⟩)

/-- Every member is a field of the form, with a value that it accepts. -/
theorem field?_members {c : Claims} (hid : ∀ v, c.id = some v → IsSubject v) {m : String × Json}
    (h : m ∈ c.members) : ∃ f, form.field? m.1 = some f ∧ f.check m.2.outline = .ok () := by
  obtain ⟨n, rfl⟩ | ⟨n, rfl⟩ | ⟨v, hv, rfl⟩ := mem_members h
  · exact ⟨iatField.rule, rfl, iatField.check_rule (instant_outline n)⟩
  · exact ⟨expField.rule, rfl, expField.check_rule (instant_outline n)⟩
  · exact ⟨idField.rule, rfl, idField.check_rule (subject_outline (hid v hv))⟩

/-- The object can be written and read. -/
theorem isProper_members {c : Claims} (hid : ∀ v, c.id = some v → IsSubject v)
    {ms : List (String × Json)} (hp : ms.Perm c.members) : (Json.object ms).isProper = true := by
  rw [Json.isProper, Bool.and_eq_true, decide_eq_true_eq, Json.areProperMembers_iff]
  refine ⟨(hp.symm.map _).nodup c.names_members, fun m hm => ?_⟩
  have hint : ∀ n : Int64, (Json.int n.toInt).isProper = true := by
    intro n
    have hlo := n.le_toInt
    have hhi := n.toInt_lt
    rw [Json.int, Json.isProper, Bool.and_eq_true, decide_eq_true_eq, decide_eq_true_eq]
    omega
  obtain ⟨n, rfl⟩ | ⟨n, rfl⟩ | ⟨v, hv, rfl⟩ := mem_members (hp.mem_iff.mp hm)
  · exact hint n
  · exact hint n
  · exact (hid v hv).2.1

/-- **Claims are read from an object of their members, in whatever order these stand.** -/
theorem read_members {c : Claims} (hid : ∀ v, c.id = some v → IsSubject v)
    {ms : List (String × Json)} (hp : ms.Perm c.members) :
    Claims.read (Json.object ms).outline = .ok c := by
  have hn : (ms.map (·.1)).Nodup := (hp.symm.map _).nodup c.names_members
  have hg : form.collect (Json.object ms).outline = .ok (Json.given ms) := by
    refine Form.collect_object hn (fun m hm => field?_members hid (hp.mem_iff.mp hm)) ?_
    intro f hf hr
    simp only [form, List.mem_cons, List.not_mem_nil, or_false] at hf
    obtain rfl | rfl | rfl := hf <;> cases hr
  have hv : ∀ name, (Json.given ms).value? name = (Json.given c.members).value? name :=
    Given.value?_perm (hp.map _) (by rwa [Json.names_given])
  have hiat : iatField.get (Json.given ms) = .ok c.iat := by
    unfold Field.get
    rw [show iatField.name = "iat" from rfl, hv, value?_iat]
    cases c.iat with
    | none => rfl
    | some n => exact instant_outline n
  have hexp : expField.get (Json.given ms) = .ok c.exp := by
    unfold Field.get
    rw [show expField.name = "exp" from rfl, hv, value?_exp]
    cases c.exp with
    | none => rfl
    | some n => exact instant_outline n
  have hsub : idField.get (Json.given ms) = .ok c.id := by
    unfold Field.get
    rw [show idField.name = "id" from rfl, hv, value?_id]
    cases he : c.id with
    | none => rfl
    | some v => exact subject_outline (hid v he)
  simp only [read, Form.read, hg, hiat, hexp, hsub, bind, Except.bind]
  rfl

end Claims

/-! ### The text of a token -/

namespace Token

/-- The claims segment of a token with the claims of an object. -/
def payload (ms : List (String × Json)) (padding : Nat) : List Char :=
  Base64Url.text (Json.object ms).bytes ++ List.replicate padding '='

/-- The text of a token with the claims of an object. -/
def mint (header : List Char) (ms : List (String × Json)) (padding : Nat)
    (signature : List Char) : List Char :=
  Text.join '.' [header, payload ms padding, signature]

theorem unpadded_append {cs : List Char} (h : ∀ c ∈ cs, c ≠ '=') (padding : Nat) :
    unpadded (cs ++ List.replicate padding '=') = cs := by
  have hp : ∀ c ∈ (List.replicate padding '=').reverse, (c == '=') = true := by
    intro c hc
    rw [List.mem_reverse, List.mem_replicate] at hc
    exact beq_iff_eq.mpr hc.2
  have hcs : cs.reverse.dropWhile (· == '=') = cs.reverse := by
    refine Text.dropWhile_eq_self fun c hc => ?_
    simpa using h c (List.mem_reverse.mp (List.mem_of_mem_head? hc))
  rw [unpadded, List.reverse_append, List.dropWhile_append_of_pos hp, hcs, List.reverse_reverse]

/-- The claims segment holds the claims. -/
theorem claimsOf_payload {c : Claims} (hid : ∀ v, c.id = some v → Claims.IsSubject v)
    {ms : List (String × Json)} (hp : ms.Perm c.members) (padding : Nat) :
    claimsOf (payload ms padding) = .ok c := by
  have hd : Base64Url.decode (Utf8.encode (unpadded (payload ms padding))) =
      .ok (Json.object ms).bytes := by
    rw [payload, unpadded_append fun _ h => (Base64Url.ne_of_mem_text h).1,
      Base64Url.decode_utf8_eq_ok]
  have hr : Decode.document Claims.read (Json.object ms).bytes = .ok c := by
    rw [Json.document_bytes (Claims.isProper_members hid hp), Claims.read_members hid hp]
  rw [claimsOf, hd]
  simp only [Except.mapError, bind, Except.bind, hr]

theorem not_mem_payload (ms : List (String × Json)) (padding : Nat) : '.' ∉ payload ms padding := by
  rw [payload, List.mem_append, List.mem_replicate, not_or]
  exact ⟨fun h => (Base64Url.ne_of_mem_text h).2 rfl, fun h => by simp at h⟩

/-- The claims segment is not empty. -/
theorem payload_ne_nil (ms : List (String × Json)) (padding : Nat) : payload ms padding ≠ [] := by
  intro h
  have ht : [] = Base64Url.text (Json.object ms).bytes := (List.append_eq_nil_iff.mp h).1.symm
  have hd : Base64Url.decode (Utf8.encode []) = .ok [] := rfl
  rw [Base64Url.decode_utf8_eq_ok.mpr ht] at hd
  cases Except.ok.inj hd

/-- **A minted token, with blank characters around it, is read as the token of its claims,
and so is the text that is sent.** -/
theorem read_mint {c : Claims} {ms : List (String × Json)}
    {header signature before after : List Char} (hid : ∀ v, c.id = some v → Claims.IsSubject v)
    (hp : ms.Perm c.members) (hh : '.' ∉ header) (hs : '.' ∉ signature)
    (hb : ∀ b ∈ before, Text.isBlank b = true) (ha : ∀ b ∈ after, Text.isBlank b = true)
    (padding : Nat) :
    let text := String.ofList (before ++ mint header ms padding signature ++ after)
    ∃ t, read text = .ok t ∧ t.claims = c ∧ t.text = Text.trimmed text ∧ read t.text = .ok t ∧
      ∀ now, t.expiredAt now = true ↔ ∃ e, c.exp = some e ∧ e ≤ now := by
  intro text
  have hdot : ∀ {cs : List Char}, (∀ b ∈ cs, Text.isBlank b = true) → '.' ∉ cs :=
    fun hc hm => absurd (hc '.' hm) (by decide)
  have ht : text.toList =
      Text.join '.' [before ++ header, payload ms padding, signature ++ after] := by
    simp [text, mint, Text.join]
  have hsplit : Text.split '.' (Text.trim text.toList) =
      [(before ++ header).dropWhile Text.isBlank, payload ms padding,
        Text.trimEnd (signature ++ after)] := by
    rw [ht, Text.trim_join (by decide), Text.split_join _ _ (List.cons_ne_nil _ _)]
    intro p hm
    simp only [List.mem_cons, List.not_mem_nil, or_false] at hm
    obtain rfl | rfl | rfl := hm
    · intro hd
      rcases List.mem_append.mp ((List.dropWhile_suffix _).subset hd) with hd | hd
      · exact hdot hb hd
      · exact hh hd
    · exact not_mem_payload ms padding
    · intro hd
      rcases List.mem_append.mp (Text.mem_of_mem_trimEnd hd) with hd | hd
      · exact hs hd
      · exact hdot ha hd
  have hseg : claimsSegment? (Text.trim text.toList) = some (payload ms padding) := by
    rw [claimsSegment?, hsplit]
    simp [payload_ne_nil]
  have hr : read text = .ok ⟨Text.trimmed text, c⟩ := by
    rw [read, hseg]
    simp only [claimsOf_payload hid hp]
    rfl
  refine ⟨⟨Text.trimmed text, c⟩, hr, rfl, rfl, ?_, fun now => ?_⟩
  · rw [read_trimmed, hr]
  · unfold expiredAt
    cases c.exp <;> simp

/-- A token for a list of values, with the members out of order and too much padding. -/
theorem read_mint_shuffled :
    let c : Claims := ⟨some (-1), some 200, some (.array [.string "ö", .object [("a", .int 3)]])⟩
    let ms : List (String × Json) := [("exp", .int 200),
      ("id", .array [.string "ö", .object [("a", .int 3)]]), ("iat", .int (-1))]
    let text := String.ofList ([' '] ++ mint ['h', ' '] ms 5 [] ++ ['\n', '\u3000'])
    ms.Perm c.members ∧
      ∃ t, read text = .ok t ∧ t.claims = c ∧ t.text = Text.trimmed text ∧ read t.text = .ok t ∧
        ∀ now, t.expiredAt now = true ↔ ∃ e, c.exp = some e ∧ e ≤ now := by
  intro c ms text
  have hid : ∀ v, c.id = some v → Claims.IsSubject v := by
    rintro _ ⟨⟩
    exact ⟨nofun, by decide +kernel, by decide +kernel⟩
  have hp : ms.Perm c.members :=
    (List.Perm.cons _ (List.Perm.swap _ _ _)).trans (List.Perm.swap _ _ _)
  have hb : ∀ b ∈ [' '], Text.isBlank b = true := List.all_eq_true.mp (by decide)
  have ha : ∀ b ∈ ['\n', '\u3000'], Text.isBlank b = true := List.all_eq_true.mp (by decide)
  exact ⟨hp, read_mint hid hp (by decide) (by decide) hb ha 5⟩

end Token
end ProxyConsole
