/-
# The members of an object by their names

The name of a member may be written with escapes. Once the names are read, an object is a
row of fields, in which a name may stand more than once.

Read as a value, the object has the members of that row, and of those of one name the last
counts. Read by a form, it gives the fields of the form that stand in the row: each field
may stand once, all that are required have to be there, each with a value that the form
takes, and whatever else stands there is skipped. So what the form makes of an object does
not depend on the order of its members.

Key definitions: `Outline.Named`, `Given.values`, `Form.among`, `Form.Fits`, `Given.Tells`.
Key theorems: `Outline.toJsonMembers_eq_ok`, `Form.collectMembers_eq_ok`,
`Form.collect_object_iff`, `Form.fits_iff`.
-/
import Mathlib.Data.List.Forall2
import Mathlib.Data.List.Nodup
import ProxyConsole.Json.Decode
import ProxyConsole.Proofs.Payload

namespace ProxyConsole

/-! ### Names -/

namespace Outline

/-- The members of an object are the fields of a row, once their names are read. -/
def Named (ms : List (StringBody × Outline)) (g : Given) : Prop :=
  List.Forall₂ (fun m f => m.1.text = .ok f.1 ∧ m.2 = f.2) ms g

theorem named_cons {key : StringBody} {o : Outline} {ms : List (StringBody × Outline)} {g : Given} :
    Named ((key, o) :: ms) g ↔ ∃ name g', key.text = .ok name ∧ Named ms g' ∧ g = (name, o) :: g' := by
  unfold Named
  rw [List.forall₂_cons_left_iff]
  constructor
  · rintro ⟨⟨name, _⟩, g', ⟨hk, rfl⟩, hms, rfl⟩
    exact ⟨name, g', hk, hms, rfl⟩
  · rintro ⟨name, g', hk, hms, rfl⟩
    exact ⟨(name, o), g', ⟨hk, rfl⟩, hms, rfl⟩

theorem named_nil {g : Given} : Named [] g ↔ g = [] :=
  List.forall₂_nil_left_iff

/-- The names of members are read in one way. -/
theorem Named.unique : ∀ {ms : List (StringBody × Outline)} {g g' : Given}, Named ms g →
    Named ms g' → g = g'
  | [], _, _, h, h' => (named_nil.mp h).trans (named_nil.mp h').symm
  | (key, o) :: ms, _, _, h, h' => by
    obtain ⟨name, g, hk, hg, rfl⟩ := named_cons.mp h
    obtain ⟨name', g', hk', hg', rfl⟩ := named_cons.mp h'
    rw [hk] at hk'
    cases hk'
    rw [hg.unique hg']

/-- In the fields of an object nothing is wrong when nothing is wrong in the object. -/
theorem Named.skip : ∀ {ms : List (StringBody × Outline)} {g : Given}, Named ms g →
    skipMembers ms = .ok () → ∀ f ∈ g, f.2.skip = .ok ()
  | [], _, h, _ => by
    rw [named_nil.mp h]
    exact List.forall_mem_nil _
  | (key, o) :: ms, _, h, hs => by
    obtain ⟨name, g, -, hg, rfl⟩ := named_cons.mp h
    obtain ⟨-, ho, hms⟩ := skipMembers_cons.mp hs
    exact List.forall_mem_cons.mpr ⟨ho, hg.skip hms⟩

end Outline

/-! ### The values of a name -/

namespace Given

/-- The values of the fields of one name, in their order. -/
def values (g : Given) (name : String) : List Outline :=
  (g.filter fun f => f.1 == name).map (·.2)

/-- The value of the last field of a name. -/
def last? (g : Given) (name : String) : Option Outline :=
  (g.values name).getLast?

theorem values_cons (k : String) (o : Outline) (g : Given) (name : String) :
    values ((k, o) :: g) name = if k = name then o :: g.values name else g.values name := by
  unfold values
  by_cases hk : k = name <;> simp [hk]

theorem values_append (g g' : Given) (name : String) :
    values (g ++ g') name = g.values name ++ g'.values name := by
  rw [values, List.filter_append, List.map_append]
  rfl

theorem mem_values {g : Given} {name : String} {o : Outline} :
    o ∈ g.values name ↔ (name, o) ∈ g := by
  simp [values]

theorem values_perm {g g' : Given} (h : g.Perm g') (name : String) :
    (g.values name).Perm (g'.values name) :=
  (h.filter _).map _

/-- Of fields with names of their own there is one of each name at most. -/
theorem length_values_le {g : Given} (h : (g.map (·.1)).Nodup) (name : String) :
    (g.values name).length ≤ 1 := by
  have hcount : (g.values name).length = (g.map (·.1)).count name := by
    rw [values, List.length_map, ← List.countP_eq_length_filter, List.count, List.countP_map]
    rfl
  exact hcount ▸ List.nodup_iff_count_le_one.mp h name

/-- The value of a field is the first of its name. -/
theorem value?_eq_head? (g : Given) (name : String) : g.value? name = (g.values name).head? := by
  rw [value?, values, List.head?_map, List.head?_filter]

theorem has_eq_false_iff {g : Given} {name : String} : g.has name = false ↔ g.values name = [] := by
  rw [has, List.any_eq_false, values, List.map_eq_nil_iff, List.filter_eq_nil_iff]

theorem last?_cons (k : String) (o : Outline) (g : Given) (name : String) :
    last? ((k, o) :: g) name = (g.last? name).or (if k = name then some o else none) := by
  unfold last?
  rw [values_cons]
  by_cases hk : k = name
  · rw [if_pos hk, if_pos hk, List.getLast?_cons]
    cases (g.values name).getLast? with
    | none => rfl
    | some o' => rfl
  · rw [if_neg hk, if_neg hk, Option.or_none]

end Given

/-! ### Objects as values -/

namespace Given

/-- Every field has a value within a depth. -/
def AreValues (d : Nat) (g : Given) : Prop :=
  ∀ f ∈ g, ∃ v, f.2.toJson d = .ok v

end Given

/-- A value that is put among members is that of its name, and the others stay. -/
theorem Json.member?_insert (k name : String) (v : Json) : ∀ ms : List (String × Json),
    (object (insert k v ms)).member? name = if k = name then some v else (object ms).member? name
  | [] => by by_cases hk : k = name <;> simp [insert, member?, hk]
  | m :: ms => by
    have ih := member?_insert k name v ms
    unfold member? at ih ⊢
    rw [insert]
    by_cases hm : m.1 = k
    · rw [if_pos hm]
      subst hm
      by_cases hk : m.1 = name <;> simp [hk]
    · rw [if_neg hm]
      by_cases hn : m.1 = name
      · have hk : k ≠ name := fun hk => hm (hn.trans hk.symm)
        simp [hn, hk]
      · simpa [hn] using ih

namespace Outline

/-- **An object is read as a value** when its names and its values are read, and of members
of one name the last counts. -/
theorem toJsonMembers_eq_ok {d : Nat} : ∀ {ms : List (StringBody × Outline)}
    {got vs : List (String × Json)}, toJsonMembers d got ms = .ok vs →
    ∃ g, Named ms g ∧ g.AreValues d ∧ ∀ name, (Json.object vs).member? name =
      ((g.last? name).bind fun o => (o.toJson d).toOption).or ((Json.object got).member? name)
  | [], got, _, h => by
    rw [toJsonMembers] at h
    cases h
    exact ⟨[], .nil, List.forall_mem_nil _, fun _ => rfl⟩
  | (key, o) :: ms, got, vs, h => by
    rw [toJsonMembers] at h
    obtain ⟨k, hk, h⟩ := bind_eq_ok.mp h
    obtain ⟨v, hv, h⟩ := bind_eq_ok.mp h
    obtain ⟨g, hg, hvalues, hlast⟩ := toJsonMembers_eq_ok h
    refine ⟨(k, o) :: g, named_cons.mpr ⟨k, g, hk, hg, rfl⟩,
      List.forall_mem_cons.mpr ⟨⟨v, hv⟩, hvalues⟩, fun name => ?_⟩
    rw [hlast, Json.member?_insert, Given.last?_cons]
    cases hl : g.last? name with
    | none => by_cases hkn : k = name <;> simp [hkn, hv, Except.toOption]
    | some o' =>
      obtain ⟨v', hv'⟩ : ∃ v', o'.toJson d = .ok v' :=
        hvalues (name, o') (Given.mem_values.mp (List.mem_of_getLast? hl))
      simp [hv', Except.toOption]

/-- An object that is read as a value is closed, and has the values of its members. -/
theorem toJson_object_eq_ok {d : Nat} {ms : List (StringBody × Outline)} {stop : MembersEnd}
    {v : Json} : (object ms stop).toJson (d + 1) = .ok v ↔
      stop = .closed ∧ ∃ vs, toJsonMembers d [] ms = .ok vs ∧ v = .object vs := by
  rw [toJson, bind_eq_ok]
  cases stop with
  | closed =>
    rw [and_iff_right rfl]
    exact exists_congr fun vs => and_congr_right fun _ => ⟨fun h => (Except.ok.inj h).symm,
      fun h => h ▸ rfl⟩
  | nameOnly key textEnds => simp [Decode.orElse, MembersEnd.mistake, bind_eq_ok]
  | _ => simp [Decode.orElse, MembersEnd.mistake]

theorem exists_toJsonMembers {d : Nat} : ∀ {ms : List (StringBody × Outline)} {g : Given},
    Named ms g → g.AreValues d → ∀ got, ∃ vs, toJsonMembers d got ms = .ok vs
  | [], _, _, _, got => ⟨got, by rw [toJsonMembers]⟩
  | (key, o) :: ms, _, h, hvalues, got => by
    obtain ⟨k, g, hk, hg, rfl⟩ := named_cons.mp h
    obtain ⟨⟨v, hv⟩, hvalues⟩ := List.forall_mem_cons.mp hvalues
    obtain ⟨vs, hvs⟩ := exists_toJsonMembers hg hvalues (Json.insert k v got)
    refine ⟨vs, ?_⟩
    rw [toJsonMembers, hk]
    simp only [bind, Except.bind, hv, hvs]

end Outline

/-! ### Objects as forms -/

namespace Form

/-- A form takes a field that is its own with a value that it accepts, and any other that can
be skipped. -/
def Takes (form : Form) (f : String × Outline) : Prop :=
  match form.field? f.1 with
  | some rule => rule.check f.2 = .ok ()
  | none => f.2.skip = .ok ()

/-- The fields of the form that stand in a row. -/
def among (form : Form) (g : Given) : Given :=
  g.filter fun f => (form.field? f.1).isSome

/-- No field of the form stands in a row twice. -/
def Once (form : Form) (g : Given) : Prop :=
  ∀ rule ∈ form.fields, (g.values rule.name).length ≤ 1

/-- A row that a form accepts. -/
structure Fits (form : Form) (g : Given) : Prop where
  takes : ∀ f ∈ g, form.Takes f
  once : form.Once g
  complete : ∀ rule ∈ form.fields, rule.required = true → g.values rule.name ≠ []

variable {form : Form}

theorem field?_eq_some {name : String} {rule : FieldRule} (h : form.field? name = some rule) :
    rule ∈ form.fields ∧ rule.name = name :=
  ⟨List.mem_of_find?_eq_some h, by simpa using List.find?_some h⟩

/-- A field of the form stands among its fields as often as in the row. -/
theorem values_among {name : String} (h : (form.field? name).isSome = true) (g : Given) :
    (form.among g).values name = g.values name := by
  rw [among, Given.values, Given.values, List.filter_filter]
  congr 2
  funext f
  by_cases hf : f.1 = name <;> simp [hf, h]

theorem isSome_field? {rule : FieldRule} (h : rule ∈ form.fields) :
    (form.field? rule.name).isSome = true := by
  rw [field?, List.find?_isSome]
  exact ⟨rule, h, by simp⟩

theorem among_cons (f : String × Outline) (g : Given) :
    form.among (f :: g) = form.among [f] ++ form.among g := by
  show List.filter _ ([f] ++ g) = _
  exact List.filter_append [f] g

/-- Of what was collected only the fields of the form count. -/
theorem once_among {g h k : Given} : form.Once (g ++ form.among h ++ k) ↔ form.Once (g ++ h ++ k) :=
  forall₂_congr fun rule hr => by
    simp only [Given.values_append, values_among (isSome_field? hr)]

/-- No field stands twice in a row to which one is added that is new. -/
theorem Once.concat {got : Given} (h : form.Once got) {name : String} (o : Outline)
    (hnew : (form.field? name).isSome = true → got.values name = []) :
    form.Once (got ++ form.among [(name, o)]) := by
  intro rule hr
  have hsome := isSome_field? hr
  rw [Given.values_append, values_among hsome, Given.values_cons]
  by_cases hn : name = rule.name
  · rw [if_pos hn, ← hn, hnew (hn ▸ hsome)]
    exact Nat.le_refl 1
  · rw [if_neg hn]
    exact (List.append_nil (got.values rule.name)).symm ▸ h rule hr

theorem Once.new {got g : Given} {name : String} {o : Outline}
    (h : form.Once (got ++ (name, o) :: g)) (hs : (form.field? name).isSome = true) :
    got.values name = [] := by
  obtain ⟨rule, hf⟩ := Option.isSome_iff_exists.mp hs
  obtain ⟨hr, rfl⟩ := field?_eq_some hf
  have hone := h rule hr
  rw [Given.values_append, Given.values_cons, if_pos rfl, List.length_append,
    List.length_cons] at hone
  exact List.eq_nil_of_length_eq_zero (by omega)

/-- A check lets what comes behind it go on when it finds no mistake. -/
theorem check_bind_eq_ok {x : Except ε Unit} {f : Unit → Except ε β} {b : β} :
    (x >>= f) = .ok b ↔ x = .ok () ∧ f () = .ok b := by
  cases x <;> simp [bind, Except.bind]

/-- The first member of an object is collected, if it is a field of the form, or skipped. -/
theorem collectMembers_cons {key : StringBody} {o : Outline} {ms : List (StringBody × Outline)}
    {got got' : Given} : form.collectMembers got ((key, o) :: ms) = .ok got' ↔
      ∃ name, key.text = .ok name ∧ form.Takes (name, o) ∧
        ((form.field? name).isSome = true → got.values name = []) ∧
        form.collectMembers (got ++ form.among [(name, o)]) ms = .ok got' := by
  rw [collectMembers, Outline.bind_eq_ok]
  simp only [Decode.wellFormed_eq_ok]
  refine exists_congr fun name => and_congr_right fun _ => ?_
  rw [check_bind_eq_ok]
  unfold checkOnce Takes among
  cases hf : form.field? name with
  | none => simp [hf, check_bind_eq_ok, Decode.wellFormed_eq_ok]
  | some rule =>
    cases hh : got.has name with
    | true =>
      have hne : got.values name ≠ [] := fun h => by
        rw [Given.has_eq_false_iff.mpr h] at hh
        cases hh
      simp [hne]
    | false => simp [hf, check_bind_eq_ok, Given.has_eq_false_iff.mp hh]

/-- **Of the members of an object a form collects its own fields.** The names have to be
read, the form has to take what stands there, and none of its fields may stand there twice
or have been collected before. -/
theorem collectMembers_eq_ok : ∀ {ms : List (StringBody × Outline)} {got got' : Given},
    form.Once got → (form.collectMembers got ms = .ok got' ↔
      ∃ g, Outline.Named ms g ∧ (∀ f ∈ g, form.Takes f) ∧ form.Once (got ++ g) ∧
        got' = got ++ form.among g)
  | [], got, got', hgot => by
    simp [collectMembers, Outline.named_nil, among, hgot, eq_comm]
  | (key, o) :: ms, got, got', hgot => by
    rw [collectMembers_cons]
    constructor
    · rintro ⟨name, hk, ht, hnew, h⟩
      obtain ⟨g, hg, htakes, hall, rfl⟩ := (collectMembers_eq_ok (hgot.concat o hnew)).mp h
      refine ⟨(name, o) :: g, Outline.named_cons.mpr ⟨name, g, hk, hg, rfl⟩,
        List.forall_mem_cons.mpr ⟨ht, htakes⟩, ?_, ?_⟩
      · simpa using once_among.mp hall
      · rw [among_cons (name, o) g, List.append_assoc]
    · rintro ⟨g, hg, htakes, hall, rfl⟩
      obtain ⟨name, g, hk, hnames, rfl⟩ := Outline.named_cons.mp hg
      obtain ⟨ht, htakes⟩ := List.forall_mem_cons.mp htakes
      have hnew := hall.new
      refine ⟨name, hk, ht, hnew,
        (collectMembers_eq_ok (hgot.concat o hnew)).mpr ⟨g, hnames, htakes, ?_, ?_⟩⟩
      · exact once_among.mpr (by simpa using hall)
      · rw [among_cons (name, o) g, List.append_assoc]

theorem checkMissing_eq_ok {got : Given} {fields : List FieldRule} :
    checkMissing got fields = .ok () ↔
      ∀ rule ∈ fields, rule.required = true → got.values rule.name ≠ [] := by
  have hnone : (fields.find? fun f => f.required && !got.has f.name) = none ↔
      ∀ rule ∈ fields, rule.required = true → got.values rule.name ≠ [] := by
    rw [List.find?_eq_none]
    refine forall₂_congr fun rule _ => ?_
    rw [ne_eq, ← Given.has_eq_false_iff]
    simp
  rw [← hnone, checkMissing]
  cases fields.find? fun f => f.required && !got.has f.name with
  | none => simp
  | some rule => simp

/-- **An object gives its fields to a form** when it is closed, its names are read, and the
form accepts the row of its members. -/
theorem collect_object_iff {ms : List (StringBody × Outline)} {stop : MembersEnd} {got : Given} :
    form.collect (.object ms stop) = .ok got ↔
      stop = .closed ∧ ∃ g, Outline.Named ms g ∧ form.Fits g ∧ got = form.among g := by
  have hnone : form.Once [] := fun _ _ => Nat.zero_le 1
  have hmissing (g : Given) : checkMissing (form.among g) form.fields = .ok () ↔
      ∀ rule ∈ form.fields, rule.required = true → g.values rule.name ≠ [] := by
    rw [checkMissing_eq_ok]
    exact forall₂_congr fun rule hr => by rw [values_among (isSome_field? hr)]
  have hend (got : Given) : form.checkEnd got stop = .ok () ↔ stop = .closed :=
    ⟨closed_of_checkEnd, fun h => by rw [h]; rfl⟩
  rw [collect, Outline.bind_eq_ok]
  simp only [collectMembers_eq_ok hnone, List.nil_append, check_bind_eq_ok, hend, pure,
    Except.pure, Except.ok.injEq]
  constructor
  · rintro ⟨_, ⟨g, hg, htakes, honce, rfl⟩, hstop, hm, rfl⟩
    exact ⟨hstop, g, hg, ⟨htakes, honce, (hmissing g).mp hm⟩, rfl⟩
  · rintro ⟨hstop, g, hg, hfits, rfl⟩
    exact ⟨_, ⟨g, hg, hfits.takes, hfits.once, rfl⟩, hstop, (hmissing g).mpr hfits.complete, rfl⟩

end Form

/-! ### What a row tells of a field -/

/-- A row gives a rule what it asks for: its field once, with a value that it accepts, or not
at all when that is allowed. -/
def FieldRule.Fits (rule : FieldRule) (g : Given) : Prop :=
  (∃ o, g.values rule.name = [o] ∧ rule.check o = .ok ()) ∨
    g.values rule.name = [] ∧ rule.required = false

/-- Fields with names of their own are found by them. -/
theorem Form.field?_of_mem {form : Form} (hd : (form.fields.map (·.name)).Nodup) {rule : FieldRule}
    (h : rule ∈ form.fields) : form.field? rule.name = some rule := by
  obtain ⟨rule', hf⟩ := Option.isSome_iff_exists.mp (isSome_field? h)
  obtain ⟨hr, hname⟩ := field?_eq_some hf
  rw [hf, List.inj_on_of_nodup_map hd hr h hname]

/-- **A form accepts a row that gives each of its rules what it asks for**, as long as its
fields have names of their own and whatever stands in the row can be skipped. -/
theorem Form.fits_iff {form : Form} (hd : (form.fields.map (·.name)).Nodup) {g : Given}
    (hs : ∀ f ∈ g, f.2.skip = .ok ()) : form.Fits g ↔ ∀ rule ∈ form.fields, rule.Fits g := by
  constructor
  · intro h rule hr
    cases hv : g.values rule.name with
    | nil =>
      refine .inr ⟨hv, Bool.eq_false_iff.mpr fun hreq => ?_⟩
      exact h.complete rule hr hreq hv
    | cons o os =>
      have hone := h.once rule hr
      rw [hv, List.length_cons] at hone
      obtain rfl : os = [] := List.eq_nil_of_length_eq_zero (by omega)
      have ho := h.takes (rule.name, o) (Given.mem_values.mp (by simp [hv]))
      simp only [Takes, field?_of_mem hd hr] at ho
      exact .inl ⟨o, hv, ho⟩
  · intro h
    refine ⟨fun f hf => ?_, fun rule hr => ?_, fun rule hr hreq hv => ?_⟩
    · unfold Takes
      cases hrule : form.field? f.1 with
      | none => exact hs f hf
      | some rule =>
        obtain ⟨hr, hname⟩ := field?_eq_some hrule
        have hmem : f.2 ∈ g.values rule.name := Given.mem_values.mpr (hname ▸ hf)
        rcases h rule hr with ⟨o, hv, ho⟩ | ⟨hv, -⟩
        · rw [hv, List.mem_singleton] at hmem
          exact hmem ▸ ho
        · rw [hv] at hmem
          cases hmem
    · rcases h rule hr with ⟨o, hv, -⟩ | ⟨hv, -⟩
      · exact hv ▸ Nat.le_refl 1
      · exact hv ▸ Nat.zero_le 1
    · rcases h rule hr with ⟨o, ho, -⟩ | ⟨-, hnot⟩
      · rw [hv] at ho
        cases ho
      · rw [hreq] at hnot
        cases hnot

namespace Given

/-- What a row tells of a field: its value is that of the only field of the name, or the
default where there is none. -/
def Tells (g : Given) (name : String) (is : Outline → α → Prop) (default : Option α) (a : α) :
    Prop :=
  (∃ o, g.values name = [o] ∧ is o a) ∨ g.values name = [] ∧ default = some a

variable {g g' : Given} {name : String} {is is' : Outline → α → Prop} {default : Option α} {a : α}

theorem tells_congr (h : ∀ o, (name, o) ∈ g → ∀ a, is o a ↔ is' o a) :
    g.Tells name is default a ↔ g.Tells name is' default a := by
  have hone (o : Outline) (ho : g.values name = [o]) : is o a ↔ is' o a :=
    h o (mem_values.mp (by rw [ho]; exact List.mem_singleton_self o)) a
  exact or_congr_left (exists_congr fun o => and_congr_right (hone o))

/-- A row tells of a field what another tells that has the same values of its name, in
whatever order. -/
theorem Tells.perm (h : g.Tells name is default a) (hp : (g.values name).Perm (g'.values name)) :
    g'.Tells name is default a := by
  rcases h with ⟨o, ho, ha⟩ | ⟨hnone, ha⟩
  · exact .inl ⟨o, List.perm_singleton.mp (ho ▸ hp).symm, ha⟩
  · exact .inr ⟨List.perm_nil.mp (hnone ▸ hp).symm, ha⟩

/-- Something is told of a field when it stands in the row at most once, does so when there
is no default, and has a value of its type. -/
theorem exists_tells_iff : (∃ a, g.Tells name is default a) ↔
    (g.values name).length ≤ 1 ∧ (default = none → g.values name ≠ []) ∧
      ∀ o, (name, o) ∈ g → ∃ a, is o a := by
  simp only [← mem_values, Tells]
  match g.values name with
  | [] => simp [Option.ne_none_iff_exists']
  | [o] => simp
  | o :: o' :: os => simp

end Given

namespace Field

theorem check_rule (f : Field α) {o : Outline} {a : α} (h : f.read o = .ok a) :
    f.rule.check o = .ok () :=
  Decode.map_eq_ok.mpr ⟨a, h, rfl⟩

variable {f : Field α} {g : Given}

/-- What a row tells of a field of a form. -/
def Tells (f : Field α) (g : Given) (a : α) : Prop :=
  g.Tells f.name (fun o a => f.read o = .ok a) f.default a

/-- A value is told of a field when the row fits its rule and the value is got from it. -/
theorem tells_iff {a : α} : f.Tells g a ↔ f.rule.Fits g ∧ f.get g = .ok a := by
  have hname : f.rule.name = f.name := rfl
  have hrequired : f.rule.required = f.default.isNone := rfl
  have hcheck (o : Outline) : f.rule.check o = .ok () ↔ ∃ a, f.read o = .ok a := by
    simp [rule, Decode.map_eq_ok]
  unfold Tells Given.Tells FieldRule.Fits get
  rw [Given.value?_eq_head?, hname, hrequired]
  match g.values f.name with
  | [] =>
    cases f.default with
    | none => simp
    | some b => simp
  | [o] => simpa [hcheck] using fun h => ⟨a, h⟩
  | o :: o' :: os => simp

/-- To build something of a row is to be told of one field after the other. -/
theorem tells_bind {rules : List FieldRule} {build : α → Except Mistake γ} {c : γ} :
    ((∀ rule ∈ f.rule :: rules, rule.Fits g) ∧ (f.get g >>= build) = .ok c) ↔
      ∃ a, f.Tells g a ∧ (∀ rule ∈ rules, rule.Fits g) ∧ build a = .ok c := by
  simp only [List.forall_mem_cons, Outline.bind_eq_ok, tells_iff]
  constructor
  · rintro ⟨⟨hf, hrules⟩, a, ha, hb⟩
    exact ⟨a, ⟨hf, ha⟩, hrules, hb⟩
  · rintro ⟨a, ⟨hf, ha⟩, hrules, hb⟩
    exact ⟨⟨hf, hrules⟩, a, ha, hb⟩

end Field

/-! ### Objects that are read by a form -/

namespace Form

variable {form : Form} {g : Given}

theorem fits_among {rule : FieldRule} (h : rule ∈ form.fields) :
    rule.Fits (form.among g) ↔ rule.Fits g := by
  rw [FieldRule.Fits, FieldRule.Fits, values_among (isSome_field? h)]

/-- Of its own fields the form is told what the row tells, and a field is told of by the
values that it is read from. -/
theorem tells_among {f : Field α} {is : Outline → α → Prop} (hf : f.rule ∈ form.fields)
    (h : ∀ o, (f.name, o) ∈ g → ∀ a, f.read o = .ok a ↔ is o a) {a : α} :
    f.Tells (form.among g) a ↔ g.Tells f.name is f.default a := by
  have hv : (form.among g).values f.name = g.values f.name := values_among (isSome_field? hf) g
  rw [← Given.tells_congr h, Field.Tells, Given.Tells, Given.Tells, hv]

/-- **What a form reads from an object** is built of the fields that its members give to the
rules. -/
theorem read_object_iff {build : Given → Except Mistake γ} {c : γ}
    (hd : (form.fields.map (·.name)).Nodup) {ms : List (StringBody × Outline)}
    (hs : Outline.skipMembers ms = .ok ()) :
    form.read build (.object ms .closed) = .ok c ↔ ∃ g, Outline.Named ms g ∧
      (∀ rule ∈ form.fields, rule.Fits (form.among g)) ∧ build (form.among g) = .ok c := by
  have hfits {g : Given} (hg : Outline.Named ms g) :
      form.Fits g ↔ ∀ rule ∈ form.fields, rule.Fits (form.among g) := by
    rw [fits_iff hd (hg.skip hs)]
    exact forall₂_congr fun rule hr => (fits_among hr).symm
  rw [read, Outline.bind_eq_ok]
  simp only [collect_object_iff, true_and]
  constructor
  · rintro ⟨_, ⟨g, hg, hf, rfl⟩, hb⟩
    exact ⟨g, hg, (hfits hg).mp hf, hb⟩
  · rintro ⟨g, hg, hf, hb⟩
    exact ⟨_, ⟨g, hg, (hfits hg).mpr hf, rfl⟩, hb⟩

end Form

end ProxyConsole
