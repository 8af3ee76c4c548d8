/-
# Passwords that a server sends are not read

A member of an object that is no field of the form is skipped, whatever stands in it, as
long as the text is JSON. No form that an answer is read by has a field for a password.
So two texts of a user, or of a list of users, that differ in nothing but the members
named so are read as the same: as the same value, or with the same mistake. The mistake
may be met at another line or column, which goes with the text and is no part of it.

Only the members of the users themselves may differ. Where a value is read that is no
form with fields, such as the name of a protocol, a further member would be a mistake.

Key definitions: `Outline.SameUser`, `Outline.SameUsers`, `Decode.IsBlind`,
`Form.LacksPassword`, `SameText`.
Key theorems: `Form.collectMembers_others`, `Form.isBlind_read`, `Decode.isBlind_list`,
`Decode.IsBlind.document`.
-/
import Mathlib.Data.List.Forall2
import ProxyConsole.Entity.Record
import ProxyConsole.Proofs.Grammar
import ProxyConsole.ServerInfo
import ProxyConsole.Session.Credentials

namespace ProxyConsole

/-! ### Texts that differ in passwords -/

/-- The name of a member for a password. -/
def StringBody.isPassword (key : StringBody) : Bool :=
  match key.text with
  | .ok name => name == "password"
  | .error _ => false

namespace Outline

/-- The members but for passwords. -/
def others (ms : List (StringBody × Outline)) : List (StringBody × Outline) :=
  ms.filter fun m => !m.1.isPassword

/-- Two objects of a user with the same members in the same order, but for passwords: these
may have other values, stand elsewhere, or be more or fewer. -/
inductive SameUser : Outline → Outline → Prop where
  | mk {ms ms' : List (StringBody × Outline)} (h : others ms = others ms') :
      SameUser (.object ms .closed) (.object ms' .closed)

/-- Two objects of a user, or two lists of them, that are the same but for passwords. -/
inductive SameUsers : Outline → Outline → Prop where
  | one {o o' : Outline} (h : o.SameUser o') : SameUsers o o'
  | many {os os' : List Outline} (h : List.Forall₂ SameUser os os') :
      SameUsers (.array os .closed) (.array os' .closed)

end Outline

/-- Two texts of JSON for a user, or for a list of users, that are the same but for passwords
and blanks. -/
def SameText (bs bs' : List UInt8) : Prop :=
  ∃ o o' : Outline, o.Padded bs ∧ o'.Padded bs' ∧ o.SameUsers o'

/-! ### Forms without a password -/

namespace Decode

/-- A reader to which passwords make no difference. -/
def IsBlind (read : Outline → Except Mistake α) : Prop :=
  ∀ o o' : Outline, o.SameUsers o' → o.skip = .ok () → o'.skip = .ok () → read o = read o'

end Decode

namespace Form

/-- A form that has no field for a password, and whose first field is never an object. -/
structure LacksPassword (form : Form) : Prop where
  field? : form.field? "password" = none
  first : ∃ f fs m, form.fields = f :: fs ∧ ∀ ms, f.check (.object ms .closed) = .error m

variable {form : Form}

theorem checkOnce_of_field? {got : Given} {name : String} (h : form.field? name = none) :
    form.checkOnce got name = .ok () := by
  rw [checkOnce, h]
  rfl

/-- Passwords are skipped, whatever stands in them. -/
theorem collectMembers_others (hf : form.field? "password" = none) :
    ∀ {ms : List (StringBody × Outline)} (got : Given), Outline.skipMembers ms = .ok () →
      form.collectMembers got (Outline.others ms) = form.collectMembers got ms
  | [], _, _ => rfl
  | (key, o) :: ms, got, h => by
    obtain ⟨-, ho, hms⟩ := Outline.skipMembers_cons.mp h
    cases hp : key.isPassword with
    | true =>
      have hkey : key.text = .ok "password" := by
        unfold StringBody.isPassword at hp
        split at hp
        · next name hn => rw [hn, beq_iff_eq.mp hp]
        · cases hp
      rw [Outline.others, List.filter_cons_of_neg (by simp [hp]), collectMembers, hkey]
      simp only [Decode.wellFormed, Except.mapError, bind, Except.bind, checkOnce_of_field? hf, hf,
        ho]
      exact collectMembers_others hf got hms
    | false =>
      rw [Outline.others, List.filter_cons_of_pos (by simp [hp]), collectMembers, collectMembers]
      have ih := fun got => collectMembers_others hf got hms
      simp only [Outline.others] at ih
      simp only [ih]

theorem collect_sameUser (hf : form.field? "password" = none) {o o' : Outline}
    (h : o.SameUser o') (ho : o.skip = .ok ()) (ho' : o'.skip = .ok ()) :
    form.collect o = form.collect o' := by
  obtain ⟨hms⟩ := h
  have hread := collectMembers_others hf [] (Outline.skip_object.mp ho).1
  have hread' := collectMembers_others hf [] (Outline.skip_object.mp ho').1
  rw [collect, collect, ← hread, ← hread', hms]

/-- Of a list of users no field is given, since the first one is no object. -/
theorem collect_sameUsers (hf : form.LacksPassword) {o o' : Outline} (h : o.SameUsers o')
    (ho : o.skip = .ok ()) (ho' : o'.skip = .ok ()) : form.collect o = form.collect o' := by
  cases h with
  | one h => exact collect_sameUser hf.field? h ho ho'
  | many h =>
    obtain ⟨f, fs, m, hfields, hfirst⟩ := hf.first
    cases h with
    | nil => rfl
    | cons h _ =>
      obtain ⟨-⟩ := h
      rw [collect, collect, hfields, collectItems, collectItems, hfirst, hfirst]
      rfl

theorem isBlind_read (hf : form.LacksPassword) (build : Given → Except Mistake α) :
    Decode.IsBlind (form.read build) := by
  intro o o' h ho ho'
  rw [read, read, collect_sameUsers hf h ho ho']

end Form

namespace Decode

theorem each_sameUser {read : Outline → Except Mistake α} (hr : IsBlind read) :
    ∀ {os os' : List Outline}, List.Forall₂ Outline.SameUser os os' →
      Outline.skipItems os = .ok () → Outline.skipItems os' = .ok () → each read os = each read os'
  | _, _, .nil, _, _ => rfl
  | _, _, .cons h hs, hos, hos' => by
    obtain ⟨ho, hos⟩ := Outline.skipItems_cons.mp hos
    obtain ⟨ho', hos'⟩ := Outline.skipItems_cons.mp hos'
    rw [each, each, hr _ _ (.one h) ho ho', each_sameUser hr hs hos hos']

/-- A list of what is read blindly is read blindly. -/
theorem isBlind_list {read : Outline → Except Mistake α} (hr : IsBlind read) :
    IsBlind (list read) := by
  intro o o' h ho ho'
  cases h with
  | one h =>
    obtain ⟨-⟩ := h
    rfl
  | many h =>
    rw [list, list, each_sameUser hr h (Outline.skip_array.mp ho).1 (Outline.skip_array.mp ho').1]

/-- **Texts that are the same but for passwords are read as the same.** -/
theorem IsBlind.document {read : Outline → Except Mistake α} (hr : IsBlind read)
    {bs bs' : List UInt8} (h : SameText bs bs') :
    Decode.document read bs = Decode.document read bs' := by
  obtain ⟨o, o', ho, ho', hs⟩ := h
  rw [document_of_padded ho, document_of_padded ho']
  exact hr o o' hs (Outline.skip_of_padded ho) (Outline.skip_of_padded ho')

end Decode

/-! ### What answers are read as -/

/-- A form is blind whose first field is a text. -/
theorem Form.lacksPassword_of_text {form : Form} (hf : form.field? "password" = none)
    (f : Field String) (hr : f.read = Decode.string) (fs : List FieldRule)
    (hfields : form.fields = f.rule :: fs) : form.LacksPassword := by
  refine ⟨hf, f.rule, fs, .wrongType .object "a string", hfields, fun ms => ?_⟩
  rw [Field.rule, hr]
  rfl

theorem User.isBlind_read : Decode.IsBlind User.read :=
  Form.isBlind_read (Form.lacksPassword_of_text rfl idField rfl _ rfl) _

theorem Record.isBlind_read : Decode.IsBlind Record.read :=
  Form.isBlind_read (Form.lacksPassword_of_text rfl idField rfl _ rfl) _

/-- Entities that are read without their passwords. -/
class Entity.IsBlind (E : Type) [Entity E] : Prop where
  read : Decode.IsBlind (Entity.read (E := E))

instance : Entity.IsBlind User := ⟨User.isBlind_read⟩

instance : Entity.IsBlind Record := ⟨Record.isBlind_read⟩

theorem ServerInfo.isBlind_read : Decode.IsBlind ServerInfo.read :=
  Form.isBlind_read (Form.lacksPassword_of_text rfl versionField rfl _ rfl) _

theorem TokenAnswer.isBlind_read : Decode.IsBlind TokenAnswer.read :=
  Form.isBlind_read (Form.lacksPassword_of_text rfl tokenField rfl _ rfl) _

end ProxyConsole
