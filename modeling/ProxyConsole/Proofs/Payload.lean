/-
# What a text has to be to be read as a token

A text is read as a token exactly when it has three segments, between blank
characters, and the middle one, without padding, is Base64 for a JSON text that the
claims can be read from. That is an object, or an array of no more than three values,
which count as the claims in their order. So a segment for `[]` is accepted too, and
a token with it has no expiry.

Key definitions: `Form.IsStrict`, `Token.Carries`.
Key theorems: `Outline.skip_of_toJson`, `Form.length_of_collectItems`,
`Form.shape_of_collect`, `Token.read_iff`.
-/
import ProxyConsole.Proofs.Base64
import ProxyConsole.Proofs.Grammar
import ProxyConsole.Token

namespace ProxyConsole

/-! ### What is read can be skipped -/

namespace Decode

theorem mapError_eq_ok {r : Except ε α} {f : ε → ε'} {a : α} :
    r.mapError f = .ok a ↔ r = .ok a := by
  cases r <;> simp [Except.mapError]

theorem wellFormed_eq_ok {r : Except Malformed α} {a : α} : wellFormed r = .ok a ↔ r = .ok a :=
  mapError_eq_ok

theorem map_eq_ok {r : Except ε α} {f : α → β} {b : β} :
    r.map f = .ok b ↔ ∃ a, r = .ok a ∧ f a = b := by
  cases r <;> simp [Except.map]

end Decode

namespace StringBody

/-- A string has bytes only when it ends. -/
theorem closed_of_bytesOf (stop : StringEnd) (ps : List Piece) : ∀ {bs : List UInt8},
    bytesOf stop ps = .ok bs → stop = .closed := by
  fun_induction bytesOf stop ps with
  | case1 h => exact fun _ => Outline.stop_of_mistake.mp h
  | case2 | case4 | case6 | case8 | case9 => exact nofun
  | case3 _ _ ih | case5 _ _ _ _ _ _ ih | case7 _ _ _ _ _ ih | case10 _ _ _ _ _ ih =>
    intro bs h
    obtain ⟨_, hb, -⟩ := Decode.map_eq_ok.mp h
    exact ih hb

theorem closed_of_text {t : StringBody} {s : String} (h : t.text = .ok s) : t.stop = .closed := by
  unfold text at h
  split at h
  · cases h
  · next bs hb => exact closed_of_bytesOf t.stop t.pieces hb

end StringBody

namespace Outline

theorem items_closed {stop : ItemsEnd} (h : Decode.orElse stop.mistake = .ok ()) :
    stop = .closed := by
  cases stop <;> first | rfl | cases h

theorem members_closed {stop : MembersEnd} (h : Decode.orElse stop.mistake = .ok ()) :
    stop = .closed := by
  cases stop with
  | closed => rfl
  | _ => cases h

mutual

/-- A value that is read as JSON has no flaw in it. -/
theorem skip_of_toJson : ∀ {o : Outline} {d : Nat} {v : Json}, o.toJson d = .ok v → o.skip = .ok ()
  | leaf .null, _, _, _ => rfl
  | leaf (.bool _), _, _, _ => rfl
  | leaf (.number _), _, _, _ => rfl
  | leaf (.string t), _, _, h => by
    rw [toJson, Decode.map_eq_ok] at h
    obtain ⟨s, hs, -⟩ := h
    exact skip_string.mpr (StringBody.closed_of_text hs)
  | leaf (.broken f), _, _, h => by
    rw [toJson] at h
    cases h
  | array os stop, 0, _, h => by
    rw [toJson] at h
    cases h
  | array os stop, d + 1, _, h => by
    rw [toJson] at h
    obtain ⟨vs, hvs, h⟩ := bind_eq_ok.mp h
    obtain ⟨_, hstop, -⟩ := bind_eq_ok.mp h
    exact skip_array.mpr ⟨skipItems_of_toJson hvs, items_closed hstop⟩
  | object ms stop, 0, _, h => by
    rw [toJson] at h
    cases h
  | object ms stop, d + 1, _, h => by
    rw [toJson] at h
    obtain ⟨vs, hvs, h⟩ := bind_eq_ok.mp h
    refine skip_object.mpr ⟨skipMembers_of_toJson hvs, ?_⟩
    dsimp only at h
    split at h
    · obtain ⟨_, -, h⟩ := bind_eq_ok.mp h
      obtain ⟨_, hstop, -⟩ := bind_eq_ok.mp h
      exact members_closed hstop
    · obtain ⟨_, hstop, -⟩ := bind_eq_ok.mp h
      exact members_closed hstop

theorem skipItems_of_toJson : ∀ {os : List Outline} {d : Nat} {vs : List Json},
    toJsonItems d os = .ok vs → skipItems os = .ok ()
  | [], _, _, _ => rfl
  | o :: os, _, _, h => by
    rw [toJsonItems] at h
    obtain ⟨v, hv, h⟩ := bind_eq_ok.mp h
    obtain ⟨vs, hvs, -⟩ := bind_eq_ok.mp h
    exact skipItems_cons.mpr ⟨skip_of_toJson hv, skipItems_of_toJson hvs⟩

theorem skipMembers_of_toJson : ∀ {ms : List (StringBody × Outline)} {d : Nat}
    {got got' : List (String × Json)}, toJsonMembers d got ms = .ok got' → skipMembers ms = .ok ()
  | [], _, _, _, _ => rfl
  | (k, o) :: ms, _, _, _, h => by
    rw [toJsonMembers] at h
    obtain ⟨name, hk, h⟩ := bind_eq_ok.mp h
    obtain ⟨v, hv, h⟩ := bind_eq_ok.mp h
    exact skipMembers_cons.mpr
      ⟨StringBody.closed_of_text hk, skip_of_toJson hv, skipMembers_of_toJson h⟩

end

end Outline

namespace Decode

theorem skip_of_integer {lo hi : Int} {expected : String} {o : Outline} {n : Int}
    (h : integer lo hi expected o = .ok n) : o.skip = .ok () := by
  unfold integer at h
  split at h
  · rfl
  · cases h

theorem skip_of_int64 {o : Outline} {n : Int64} (h : int64 o = .ok n) : o.skip = .ok () := by
  obtain ⟨i, hi, -⟩ := map_eq_ok.mp h
  exact skip_of_integer hi

theorem skip_of_value {d : Nat} {o : Outline} {v : Json} (h : value d o = .ok v) :
    o.skip = .ok () :=
  Outline.skip_of_toJson (wellFormed_eq_ok.mp h)

/-- What may be `null` has no flaw in it when what is not has none. -/
theorem skip_of_optional {read : Outline → Except Mistake α} {o : Outline} {a : Option α}
    (hr : ∀ b, read o = .ok b → o.skip = .ok ()) (h : optional read o = .ok a) :
    o.skip = .ok () := by
  unfold optional at h
  split at h
  · rfl
  · obtain ⟨b, hb, -⟩ := map_eq_ok.mp h
    exact hr b hb

end Decode

/-! ### What a form is read from -/

namespace Form

/-- No field of the form accepts a value with a flaw in it. -/
def IsStrict (fields : List FieldRule) : Prop :=
  ∀ f ∈ fields, ∀ o, f.check o = .ok () → o.skip = .ok ()

/-- The end of an object is accepted only when the object is closed. -/
theorem closed_of_checkEnd {form : Form} {got : Given} {stop : MembersEnd}
    (h : form.checkEnd got stop = .ok ()) : stop = .closed := by
  unfold checkEnd at h
  dsimp only at h
  split at h
  · obtain ⟨_, -, h⟩ := Outline.bind_eq_ok.mp h
    obtain ⟨_, -, h⟩ := Outline.bind_eq_ok.mp h
    exact Outline.members_closed (Decode.wellFormed_eq_ok.mp h)
  · exact Outline.members_closed (Decode.wellFormed_eq_ok.mp h)

theorem skip_of_collectMembers {form : Form} (hf : IsStrict form.fields) :
    ∀ {ms : List (StringBody × Outline)} {got got' : Given},
      form.collectMembers got ms = .ok got' → Outline.skipMembers ms = .ok ()
  | [], _, _, _ => rfl
  | (key, o) :: ms, _, _, h => by
    rw [collectMembers] at h
    obtain ⟨name, hk, h⟩ := Outline.bind_eq_ok.mp h
    obtain ⟨_, -, h⟩ := Outline.bind_eq_ok.mp h
    have hkey := StringBody.closed_of_text (Decode.wellFormed_eq_ok.mp hk)
    rw [Outline.skipMembers_cons]
    split at h
    · obtain ⟨_, ho, h⟩ := Outline.bind_eq_ok.mp h
      exact ⟨hkey, Decode.wellFormed_eq_ok.mp ho, skip_of_collectMembers hf h⟩
    · next f hfield =>
      obtain ⟨_, ho, h⟩ := Outline.bind_eq_ok.mp h
      have hm : f ∈ form.fields := List.mem_of_find?_eq_some hfield
      exact ⟨hkey, hf f hm o ho, skip_of_collectMembers hf h⟩

theorem checkLength_eq_ok {form : Form} {fields : List FieldRule} {length : Nat} :
    form.checkLength length fields = .ok () ↔ ∀ rule ∈ fields, rule.required = false := by
  induction fields generalizing length with
  | nil => simp [checkLength]
  | cons rule fields ih =>
    rw [checkLength, List.forall_mem_cons]
    cases hr : rule.required with
    | true => simp
    | false => simp [ih]

/-- An array from which fields are collected has no more items than the form has fields, and
leaves out no field that has to be there. -/
theorem length_of_collectItems {form : Form} {stop : ItemsEnd} {rules : List FieldRule}
    {os : List Outline} {got got' : Given} (h : form.collectItems stop got rules os = .ok got') :
    os.length ≤ rules.length ∧ ∀ rule ∈ rules.drop os.length, rule.required = false := by
  induction rules generalizing os got with
  | nil =>
    cases os with
    | nil => exact ⟨Nat.le_refl 0, List.forall_mem_nil _⟩
    | cons o os => cases h
  | cons rule rules ih =>
    cases os with
    | nil =>
      obtain ⟨_, -, h⟩ := Outline.bind_eq_ok.mp h
      obtain ⟨_, hlength, -⟩ := Outline.bind_eq_ok.mp h
      exact ⟨Nat.zero_le _, checkLength_eq_ok.mp hlength⟩
    | cons o os =>
      obtain ⟨_, -, h⟩ := Outline.bind_eq_ok.mp h
      obtain ⟨hlen, hrest⟩ := ih h
      exact ⟨Nat.succ_le_succ hlen, hrest⟩

theorem skip_of_collectItems {form : Form} {stop : ItemsEnd} :
    ∀ {fields : List FieldRule} {os : List Outline} {got got' : Given}, IsStrict fields →
      form.collectItems stop got fields os = .ok got' →
      Outline.skipItems os = .ok () ∧ stop = .closed
  | [], [], _, _, _, h => by
    obtain ⟨_, hstop, -⟩ := Outline.bind_eq_ok.mp h
    refine ⟨rfl, ?_⟩
    cases stop with
    | closed => rfl
    | _ => cases hstop
  | [], _ :: _, _, _, _, h => by cases h
  | f :: fields, [], _, _, _, h => by
    obtain ⟨_, hstop, -⟩ := Outline.bind_eq_ok.mp h
    exact ⟨rfl, Outline.items_closed (Decode.wellFormed_eq_ok.mp hstop)⟩
  | f :: fields, o :: os, _, _, hf, h => by
    obtain ⟨_, ho, h⟩ := Outline.bind_eq_ok.mp h
    obtain ⟨hos, hstop⟩ := skip_of_collectItems (fun g hg => hf g (by simp [hg])) h
    exact ⟨Outline.skipItems_cons.mpr ⟨hf f (by simp) o ho, hos⟩, hstop⟩

/-- **A form is read from an object, or from an array of no more values than it has
fields, without a flaw in either.** -/
theorem shape_of_collect {form : Form} (hf : IsStrict form.fields) {o : Outline} {got : Given}
    (h : form.collect o = .ok got) : o.skip = .ok () ∧
      ((∃ ms, o = .object ms .closed) ∨ ∃ os, o = .array os .closed ∧
        os.length ≤ form.fields.length) := by
  cases o with
  | leaf l => cases h
  | array os stop =>
    obtain ⟨hos, rfl⟩ := skip_of_collectItems hf h
    obtain ⟨hlen, -⟩ := length_of_collectItems h
    exact ⟨Outline.skip_array.mpr ⟨hos, rfl⟩, .inr ⟨os, rfl, hlen⟩⟩
  | object ms stop =>
    obtain ⟨_, hms, h⟩ := Outline.bind_eq_ok.mp h
    obtain ⟨_, hend, -⟩ := Outline.bind_eq_ok.mp h
    obtain rfl := closed_of_checkEnd hend
    exact ⟨Outline.skip_object.mpr ⟨skip_of_collectMembers hf hms, rfl⟩, .inl ⟨ms, rfl⟩⟩

end Form

theorem Field.skip_of_check {f : Field α} (hf : ∀ o a, f.read o = .ok a → o.skip = .ok ())
    {o : Outline} (h : f.rule.check o = .ok ()) : o.skip = .ok () := by
  obtain ⟨a, ha, -⟩ := Decode.map_eq_ok.mp h
  exact hf o a ha

namespace Claims

theorem isStrict_form : Form.IsStrict form.fields := by
  intro f hf o h
  simp only [form, List.mem_cons, List.not_mem_nil, or_false] at hf
  obtain rfl | rfl | rfl := hf
  · exact Field.skip_of_check
      (fun _ _ => Decode.skip_of_optional fun _ => Decode.skip_of_int64) h
  · exact Field.skip_of_check
      (fun _ _ => Decode.skip_of_optional fun _ => Decode.skip_of_int64) h
  · exact Field.skip_of_check
      (fun _ _ => Decode.skip_of_optional fun _ => Decode.skip_of_value) h

/-- What claims are read from. -/
theorem shape_of_read {o : Outline} {c : Claims} (h : Claims.read o = .ok c) : o.skip = .ok () ∧
    ((∃ ms, o = .object ms .closed) ∨ ∃ os, o = .array os .closed ∧ os.length ≤ 3) := by
  obtain ⟨got, hg, -⟩ := Outline.bind_eq_ok.mp h
  exact Form.shape_of_collect isStrict_form hg

end Claims

/-! ### What a token is read from -/

namespace Decode

theorem document_eq_ok {read : Outline → Except Mistake α} {bs : List UInt8} {a : α} :
    document read bs = .ok a ↔ ∃ o, Outline.read bs = (o, []) ∧ read o = .ok a := by
  unfold document
  rw [Outline.bind_eq_ok]
  constructor
  · rintro ⟨v, hv, h⟩
    split at h
    · next he =>
      refine ⟨(Outline.read bs).1, Prod.ext rfl (List.isEmpty_iff.mp he), ?_⟩
      rw [hv, ← Except.ok.inj h]
    · cases h
  · rintro ⟨o, ho, h⟩
    refine ⟨a, ?_, ?_⟩ <;> rw [ho]
    · exact h
    · rfl

end Decode

namespace Token

/-- A text has three segments between blank characters, and the middle one, without
padding, is Base64 for a JSON text of one value. -/
def Carries (s : String) (o : Outline) : Prop :=
  ∃ header segment signature bs,
    Text.split '.' (Text.trim s.toList) = [header, segment, signature] ∧ segment ≠ [] ∧
      unpadded segment = Base64Url.text bs ∧ Outline.Padded o bs

/-- A text carries one value at most. -/
theorem Carries.unique {s : String} {o o' : Outline} (h : Carries s o) (h' : Carries s o') :
    o = o' := by
  obtain ⟨header, segment, signature, bs, hsplit, -, hbs, ho⟩ := h
  obtain ⟨header', segment', signature', bs', hsplit', -, hbs', ho'⟩ := h'
  rw [hsplit] at hsplit'
  obtain ⟨-, rfl, -⟩ : header = header' ∧ segment = segment' ∧ signature = signature' := by
    simpa using hsplit'
  have hd := Base64Url.decode_utf8_eq_ok.mpr hbs
  rw [Base64Url.decode_utf8_eq_ok.mpr hbs'] at hd
  cases hd
  have hr := (Outline.read_iff_padded.mpr ho).1
  rw [(Outline.read_iff_padded.mpr ho').1] at hr
  exact (Prod.mk.inj hr).1.symm

theorem claimsSegment?_eq_some {cs p : List Char} : claimsSegment? cs = some p ↔
    ∃ header signature, Text.split '.' cs = [header, p, signature] ∧ p ≠ [] := by
  unfold claimsSegment?
  split
  · next header q signature hq =>
    rw [hq]
    cases q with
    | nil => simp
    | cons c q =>
      simp only [List.isEmpty_cons, Bool.false_eq_true, if_false, Option.some.injEq]
      constructor
      · rintro rfl
        exact ⟨header, signature, rfl, List.cons_ne_nil c q⟩
      · rintro ⟨_, _, h, -⟩
        simp at h
        exact h.2.1
  · next hn =>
    simp only [reduceCtorEq, false_iff]
    rintro ⟨header, signature, h, -⟩
    exact hn _ _ _ h

theorem claimsOf_eq_ok {segment : List Char} {c : Claims} : claimsOf segment = .ok c ↔
    ∃ bs o, unpadded segment = Base64Url.text bs ∧ Outline.read bs = (o, []) ∧
      Claims.read o = .ok c := by
  unfold claimsOf
  rw [Outline.bind_eq_ok]
  constructor
  · rintro ⟨bs, hbs, h⟩
    obtain ⟨o, ho, hc⟩ := Decode.document_eq_ok.mp (Decode.mapError_eq_ok.mp h)
    exact ⟨bs, o, Base64Url.decode_utf8_eq_ok.mp (Decode.mapError_eq_ok.mp hbs), ho, hc⟩
  · rintro ⟨bs, o, hbs, ho, hc⟩
    exact ⟨bs, Decode.mapError_eq_ok.mpr (Base64Url.decode_utf8_eq_ok.mpr hbs),
      Decode.mapError_eq_ok.mpr (Decode.document_eq_ok.mpr ⟨o, ho, hc⟩)⟩

theorem read_of_carries {s : String} {o : Outline} {c : Claims} (h : Carries s o)
    (hc : Claims.read o = .ok c) : read s = .ok ⟨Text.trimmed s, c⟩ := by
  obtain ⟨header, segment, signature, bs, hsplit, hne, hbs, ho⟩ := h
  have hseg := claimsSegment?_eq_some.mpr ⟨header, signature, hsplit, hne⟩
  have hclaims := claimsOf_eq_ok.mpr ⟨bs, o, hbs, (Outline.read_iff_padded.mpr ho).1, hc⟩
  rw [read, hseg]
  simp only [hclaims]
  rfl

/-- **A text is read as a token exactly when it carries an object, or an array of no more
than three values, that the claims are read from.** -/
theorem read_iff {s : String} {t : Token} : read s = .ok t ↔ t.text = Text.trimmed s ∧
    ∃ o, Carries s o ∧ Claims.read o = .ok t.claims ∧
      ((∃ ms, o = .object ms .closed) ∨ ∃ os, o = .array os .closed ∧ os.length ≤ 3) := by
  constructor
  · intro h
    refine ⟨text_of_read h, ?_⟩
    unfold read at h
    split at h
    · cases h
    · next segment hseg =>
      obtain ⟨header, signature, hsplit, hne⟩ := claimsSegment?_eq_some.mp hseg
      obtain ⟨c, hc, rfl⟩ := Decode.map_eq_ok.mp h
      obtain ⟨bs, o, hbs, ho, hread⟩ := claimsOf_eq_ok.mp hc
      obtain ⟨hskip, hshape⟩ := Claims.shape_of_read hread
      have hpad := Outline.read_iff_padded.mp ⟨ho, hskip⟩
      exact ⟨o, ⟨header, segment, signature, bs, hsplit, hne, hbs, hpad⟩, hread, hshape⟩
  · rintro ⟨ht, o, ho, hread, -⟩
    rw [read_of_carries ho hread, ← ht]

/-- The segment for `[]` is accepted, and a token with it never expires. -/
theorem read_emptyArray : ∃ t, read "aGVhZA.W10.c2ln" = .ok t ∧ (∀ now, t.expiredAt now = false) ∧
    ¬ ∃ ms, Carries "aGVhZA.W10.c2ln" (.object ms .closed) := by
  have harray : Carries "aGVhZA.W10.c2ln" (.array [] .closed) :=
    ⟨"aGVhZA".toList, "W10".toList, "c2ln".toList, [91, 93], by decide +kernel, by decide,
      by decide +kernel, Outline.padded_of_written (.emptyArray areBlanks_nil)⟩
  refine ⟨_, read_of_carries harray rfl, fun _ => rfl, ?_⟩
  rintro ⟨ms, hobject⟩
  cases harray.unique hobject

end Token
end ProxyConsole
