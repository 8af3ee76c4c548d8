/-
# What is written is read back

The JSON of an entity is read as that entity, whatever characters stand in its
texts and however large its numbers are; of a user the password is left out, which
is written but not read. A form with fields reads an object of members when each
member that is a field holds a value that the field reads, so a form that is read
back member by member is read back. What a server sends back of an update as it
came is therefore what the local entity shows.

Key definitions: `Json.Restores`, `Form.Builds`, `ReadsBack`, `SurvivesTheWay`.
Key theorems: `Json.Restores.list`, `Form.Builds.restores`, `Record.restores`,
`User.restores`, `Collection.updateWith_echo`, `survives_the_way`.
-/
import ProxyConsole.Proofs.Confirmed
import ProxyConsole.Proofs.Mint
import ProxyConsole.Proofs.Plain
import ProxyConsole.ServerInfo

namespace ProxyConsole

namespace Json

/-- A reader restores a value from JSON that can be written. -/
structure Restores (read : Outline → Except Mistake α) (v : Json) (a : α) : Prop where
  proper : v.isProper = true
  read_outline : read v.outline = .ok a

theorem areProperItems_iff : ∀ {vs : List Json},
    areProperItems vs = true ↔ ∀ v ∈ vs, v.isProper = true
  | [] => by simp [areProperItems]
  | v :: vs => by simp [areProperItems, @areProperItems_iff vs]

namespace Restores

/-- What is restored is read from the compact text. -/
theorem document {read : Outline → Except Mistake α} {v : Json} {a : α} (h : Restores read v a) :
    Decode.document read v.bytes = .ok a := by
  rw [document_bytes h.proper, h.read_outline]

/-! ### Plain values -/

theorem string (s : String) : Restores Decode.string (.string s) s := by
  refine ⟨rfl, ?_⟩
  rw [outline, Decode.string, StringBody.text_ofText]
  rfl

theorem bool (b : Bool) : Restores Decode.bool (.bool b) b :=
  ⟨rfl, by rw [outline, Decode.bool]⟩

theorem int64 (n : Int64) : Restores Decode.int64 (.int n.toInt) n := by
  refine ⟨?_, Claims.int64_outline n⟩
  have hlo := n.le_toInt
  have hhi := n.toInt_lt
  rw [Json.int, isProper, Bool.and_eq_true, decide_eq_true_eq, decide_eq_true_eq]
  omega

theorem uint16 (n : UInt16) : Restores Decode.uint16 (.int n.toNat) n := by
  have hlt : n.toNat < 65536 := n.toNat_lt
  have hr : (0 : Int) ≤ n.toNat ∧ (n.toNat : Int) ≤ 0xFFFF := by omega
  refine ⟨?_, ?_⟩
  · rw [Json.int, isProper, Bool.and_eq_true, decide_eq_true_eq, decide_eq_true_eq]
    omega
  · have hv : (Numeral.ofInt n.toNat).value = some (.integer n.toNat) :=
      Numeral.value_ofInt (by omega) (by omega)
    rw [Json.int, outline, Number.outline, Decode.uint16, Decode.integer, Decode.number, hv]
    simp only [Decode.wellFormed, Except.mapError, bind, Except.bind, if_pos hr, Except.map,
      Int.toNat_natCast, UInt16.ofNat_toNat]

theorem protocol (p : Protocol) : Restores Protocol.read (.string p.text) p := by
  refine ⟨rfl, ?_⟩
  have hn : Protocol.named p.text = .ok p := by
    cases p <;> rfl
  rw [outline, Protocol.read, StringBody.text_ofText]
  exact hn

/-- A list is restored item by item. -/
theorem list {read : Outline → Except Mistake β} {f : α → Json} {g : α → β}
    (h : ∀ a, Restores read (f a) (g a)) (as : List α) :
    Restores (Decode.list read) (.array (as.map f)) (as.map g) := by
  have heach : Decode.each read (outlineItems (as.map f)) = .ok (as.map g) := by
    induction as with
    | nil => rfl
    | cons a as ih =>
      rw [List.map_cons, List.map_cons, outlineItems, Decode.each, (h a).read_outline, ih]
      rfl
  refine ⟨?_, ?_⟩
  · rw [isProper, areProperItems_iff]
    intro v hv
    obtain ⟨a, -, rfl⟩ := List.mem_map.mp hv
    exact (h a).proper
  · rw [outline, Decode.list, heach]
    rfl

theorem texts (ss : List String) :
    Restores (Decode.list Decode.string) (.array (ss.map .string)) ss := by
  have h := list string ss
  rwa [List.map_id'] at h

end Restores

end Json

open Json (Restores)

/-! ### Forms -/

namespace Form

/-- What is built of the members of an object, taken one by one in their order: of a member
that is a field of the form its value, and of one that is no field, and a text, nothing. -/
inductive Builds (form : Form) : (Given → Except Mistake γ) → List (String × Json) → γ → Prop where
  | done (c : γ) : Builds form (fun _ => pure c) [] c
  | field (f : Field α) {v : Json} {a : α} {build : α → Given → Except Mistake γ}
      {ms : List (String × Json)} {c : γ} : form.field? f.name = some f.rule →
      Restores f.read v a → Builds form (build a) ms c →
      Builds form (fun g => f.get g >>= fun a => build a g) ((f.name, v) :: ms) c
  | skip {name s : String} {build : Given → Except Mistake γ} {ms : List (String × Json)}
      {c : γ} : form.field? name = none → Builds form build ms c →
      Builds form build ((name, .string s) :: ms) c

/-- A field reads the value that the object has for it. -/
theorem get_known {form : Form} {ms : List (String × Json)} (hn : (ms.map (·.1)).Nodup)
    {f : Field α} {v : Json} {a : α} (hm : (f.name, v) ∈ ms)
    (hf : form.field? f.name = some f.rule) (hr : Restores f.read v a) :
    f.get (Json.given (form.known ms)) = .ok a := by
  have hknown : (f.name, v) ∈ form.known ms := by
    refine List.mem_filter.mpr ⟨hm, ?_⟩
    rw [hf]
    rfl
  have hnames : ((Json.given (form.known ms)).map (·.1)).Nodup := by
    rw [Json.names_given]
    exact hn.sublist (List.filter_sublist.map _)
  have hgiven : (f.name, v.outline) ∈ Json.given (form.known ms) :=
    List.mem_map.mpr ⟨(f.name, v), hknown, rfl⟩
  have hv : (Json.given (form.known ms)).value? f.name = some v.outline :=
    (Given.value?_eq_some hnames).mpr hgiven
  rw [Field.get, hv]
  exact hr.read_outline

/-- A field that the object has is among those that it gives. -/
theorem mem_known {form : Form} {ms : List (String × Json)} {f : FieldRule}
    (hf : f ∈ form.fields) (hm : f.name ∈ ms.map (·.1)) : f.name ∈ (form.known ms).map (·.1) := by
  obtain ⟨m, hmem, he⟩ := List.mem_map.mp hm
  have hsome : (form.field? m.1).isSome = true := by
    rw [field?, List.find?_isSome]
    exact ⟨f, hf, by simp [he]⟩
  exact List.mem_map.mpr ⟨m, List.mem_filter.mpr ⟨hmem, hsome⟩, he⟩

namespace Builds

variable {form : Form} {build : Given → Except Mistake γ} {ms : List (String × Json)} {c : γ}

/-- The form accepts every member, and the object can be written. -/
theorem accepts (h : form.Builds build ms c) :
    ∀ m ∈ ms, form.Accepts m ∧ m.2.isProper = true := by
  induction h with
  | done => simp
  | field f hf hr _ ih =>
    refine List.forall_mem_cons.mpr ⟨⟨?_, hr.proper⟩, ih⟩
    simp only [Accepts, hf]
    exact f.check_rule hr.read_outline
  | skip hf _ ih =>
    refine List.forall_mem_cons.mpr ⟨⟨?_, rfl⟩, ih⟩
    simp only [Accepts, hf]
    rw [Json.outline, Outline.skip]
    rfl

/-- What is built of the members is built of the fields that an object with them gives. -/
theorem build_known (h : form.Builds build ms c) {all : List (String × Json)}
    (hn : (all.map (·.1)).Nodup) (hsub : ∀ m ∈ ms, m ∈ all) :
    build (Json.given (form.known all)) = .ok c := by
  induction h with
  | done => rfl
  | field f hf hr _ ih =>
    obtain ⟨hm, hms⟩ := List.forall_mem_cons.mp hsub
    have hget := get_known hn hm hf hr
    simp only [hget, bind, Except.bind]
    exact ih hms
  | skip _ _ ih => exact ih (List.forall_mem_cons.mp hsub).2

/-- **A form restores what is built of the members of an object.** -/
theorem restores (h : form.Builds build ms c) (hn : (ms.map (·.1)).Nodup)
    (hr : ∀ f ∈ form.fields, f.name ∈ ms.map (·.1)) :
    Restores (form.read build) (.object ms) c := by
  have ha := h.accepts
  refine ⟨?_, ?_⟩
  · rw [Json.isProper, Bool.and_eq_true, decide_eq_true_eq, Json.areProperMembers_iff]
    exact ⟨hn, fun m hm => (ha m hm).2⟩
  · have hc : form.collect (Json.object ms).outline = .ok (Json.given (form.known ms)) :=
      collect_accepted hn (fun m hm => (ha m hm).1) fun f hf _ => mem_known hf (hr f hf)
    rw [read, hc]
    exact h.build_known hn fun _ hm => hm

end Builds

end Form

/-! ### The types that travel -/

theorem Owner.restores (o : Owner) : Restores Owner.read o.toJson o := by
  refine Form.Builds.restores ?_ (by simp) (by simp [form, Field.rule, idField, emailField])
  exact .field idField rfl (.string o.id) <| .field emailField rfl (.string o.email) <| .done o

theorem Credentials.restores (c : Credentials) : Restores Credentials.read c.toJson c := by
  refine Form.Builds.restores ?_ (by simp) (by simp [form, Field.rule, emailField, passwordField])
  exact .field emailField rfl (.string c.email) <|
    .field passwordField rfl (.string c.password) <| .done c

theorem Listener.restores (l : Listener) : Restores Listener.read l.toJson l := by
  refine Form.Builds.restores ?_ (by simp) (by simp [form, Field.rule, enabledField, addressField])
  exact .field enabledField rfl (.bool l.enabled) <|
    .field addressField rfl (.string l.address) <| .done l

theorem ProxyInfo.restores (p : ProxyInfo) : Restores ProxyInfo.read p.toJson p := by
  refine Form.Builds.restores ?_ (by simp) (by simp [form, Field.rule, sslField, httpField])
  exact .field sslField rfl p.ssl.restores <| .field httpField rfl p.http.restores <| .done p

theorem ServerInfo.restores (i : ServerInfo) : Restores ServerInfo.read i.toJson i := by
  refine Form.Builds.restores ?_ (by simp) (by simp [form, Field.rule, versionField, proxyField])
  exact .field versionField rfl (.string i.version) <|
    .field proxyField rfl i.proxy.restores <| .done i

theorem Record.restores (r : Record) : Restores Record.read r.toJson r := by
  refine Form.Builds.restores ?_ (by simp) ?_
  · exact .field idField rfl (.string r.id) <|
      .field fqdnField rfl (.string r.fqdn) <|
      .field handlerHostField rfl (.string r.handlerHost) <|
      .field handlerPortField rfl (.uint16 r.handlerPort) <|
      .field handlerProtocolField rfl (.protocol r.handlerProtocol) <|
      .field ownerField rfl r.owner.restores <|
      .field clientsField rfl (.texts r.clients) <|
      .field blacklistField rfl (.bool r.blacklist) <|
      .field createdAtField rfl (.int64 r.createdAt) <|
      .field updatedAtField rfl (.int64 r.updatedAt) <| .done r
  · simp [form, Field.rule, idField, fqdnField, handlerHostField, handlerPortField,
      handlerProtocolField, ownerField, clientsField, blacklistField, createdAtField,
      updatedAtField]

/-- Of a user everything is restored but the password, which is no field of the form. -/
theorem User.restores (u : User) : Restores User.read u.toJson u.withoutPassword := by
  have htimes : form.Builds
      (fun g => createdAtField.get g >>= fun created => updatedAtField.get g >>= fun updated =>
        pure (User.mk u.id u.email none created updated))
      [("created_at", .int u.createdAt.toInt), ("updated_at", .int u.updatedAt.toInt)]
      u.withoutPassword :=
    .field createdAtField rfl (.int64 u.createdAt) <|
      .field updatedAtField rfl (.int64 u.updatedAt) <| .done u.withoutPassword
  obtain ⟨id, email, password, createdAt, updatedAt⟩ := u
  cases password with
  | none =>
    refine Form.Builds.restores ?_ (by simp [passwordMember])
      (by simp [form, Field.rule, idField, emailField, createdAtField, updatedAtField])
    exact .field idField rfl (.string id) <| .field emailField rfl (.string email) htimes
  | some p =>
    refine Form.Builds.restores ?_ (by simp [passwordMember])
      (by simp [form, Field.rule, idField, emailField, createdAtField, updatedAtField])
    exact .field idField rfl (.string id) <| .field emailField rfl (.string email) <|
      .skip rfl htimes

/-! ### Texts -/

/-- Values of a type are read back from their text, each as what it keeps, and so are lists
of them. -/
structure ReadsBack (read : Outline → Except Mistake α) (toJson : α → Json) (kept : α → α) :
    Prop where
  one : ∀ a, Decode.document read (toJson a).bytes = .ok (kept a)
  many : ∀ as : List α,
    Decode.document (Decode.list read) (Json.array (as.map toJson)).bytes = .ok (as.map kept)

theorem ReadsBack.of_restores {read : Outline → Except Mistake α} {toJson : α → Json}
    {kept : α → α} (h : ∀ a, Restores read (toJson a) (kept a)) : ReadsBack read toJson kept where
  one a := (h a).document
  many as := (Restores.list h as).document

namespace Collection

variable {E : Type} [Entity E]

/-- An update whose request comes back as it was sent leaves the entity as it was sent. -/
theorem updateWith_echo {kept : E → E}
    (hread : ReadsBack (Entity.read (E := E)) Entity.toJson kept) {c : Setup} {h : Handler}
    {change : E → E} {e : E} {s : Session} {a : Answer}
    (ha : s.answer? c (updateAsk ((Edit.begin e).apply change)) = some a) (hs : a.status = 200)
    (hw : a.whole = true)
    (hb : (updateAsk ((Edit.begin e).apply change)).body.map Json.bytes = some a.body) :
    (updateWith c h change e s).1 = .ok (Entity.settle (kept (change e))) ∧
      (updateWith c h change e s).2.1 = Entity.settle (kept (change e)) := by
  have hbody : a.body = (Entity.toJson (change e)).bytes := (Option.some.inj hb).symm
  have hsuccess : a.isSuccess = true := by
    simp [Answer.isSuccess, hs]
  have hdoc : Decode.document (Entity.read (E := E)) a.body = .ok (kept (change e)) := by
    rw [hbody]
    exact hread.one (change e)
  have hfetch := Session.fetch_eq_ok.mpr ⟨a, ha, hsuccess, hw, hdoc⟩
  obtain ⟨hr, hd⟩ := update_of_ok (h := h) hfetch
  refine ⟨hr, ?_⟩
  rw [updateWith, hd]
  rfl

end Collection

/-- What travels between the console and the server survives the way. Records, owners,
credentials and what the server tells of itself are read back as they were written, and users
without their passwords. So an update that comes back as it was sent leaves the local entity
exactly as it was changed. -/
structure SurvivesTheWay : Prop where
  record : ReadsBack Record.read Record.toJson id
  owner : ReadsBack Owner.read Owner.toJson id
  credentials : ReadsBack Credentials.read Credentials.toJson id
  serverInfo : ReadsBack ServerInfo.read ServerInfo.toJson id
  user : ReadsBack User.read User.toJson fun u => { u with password := none }
  echo : ∀ c h (change : Record → Record) r s a,
    s.answer? c (Collection.updateAsk ((Edit.begin r).apply change)) = some a →
    a.status = 200 → a.whole = true →
    (Collection.updateAsk ((Edit.begin r).apply change)).body.map Json.bytes = some a.body →
    (Collection.updateWith c h change r s).1 = .ok (change r) ∧
      (Collection.updateWith c h change r s).2.1 = change r

/-- **What is written is read back.** -/
theorem survives_the_way : SurvivesTheWay where
  record := .of_restores Record.restores
  owner := .of_restores Owner.restores
  credentials := .of_restores Credentials.restores
  serverInfo := .of_restores ServerInfo.restores
  user := .of_restores User.restores
  echo _ _ _ _ _ _ := Collection.updateWith_echo (.of_restores Record.restores)

/-- A server that sends back what it gets keeps a quote and a line break in a name. -/
example :
    let r : Record := { (default : Record) with id := "1" }
    let change : Record → Record := fun r => { r with fqdn := "a\"\n\u03b1" }
    let s : Session :=
      .start (.memory none) ⟨true, [.answer ⟨200, (change r).toJson.bytes, true⟩], []⟩
    (Collection.updateWith .loopback .banner change r s).2.1 = change r := by
  decide +kernel

end ProxyConsole
