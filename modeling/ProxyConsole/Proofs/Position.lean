/-
# Arrays and objects are read alike

A form is read from an object of its fields, or from an array of their values in the order in
which the form has them. The values that stand in an array have the names of the fields in
their places, and what is read from an array is what is read from the object with these
names, mistakes included. The fields behind the last value are left out, so they have to be
ones with a default: an array of fewer values than there are fields without one, or of more
values than there are fields, is never read.

So the first fields of a record or of a user, as many as there have to be or more, are read
from an array as from an object of them in any order, each as the record or the user with
the defaults for the rest. A password has no place in either.

Key definitions: `Form.placed`, `Form.AsksFirst`, `Form.ReadsAlike`, `Outline.Hold`,
`Form.ReadsFirst`, `Record.upTo`, `User.upTo`.
Key theorems: `Form.collectItems_eq_collectMembers`, `Form.AsksFirst.collect_array`,
`Form.AsksFirst.readsAlike`, `Form.AsksFirst.tells_upTo`, `Form.AsksFirst.readsFirst`,
`read_by_place`.
-/
import ProxyConsole.Proofs.ReadBack
import ProxyConsole.Proofs.Schema

namespace ProxyConsole

/-! ### Names for values -/

namespace Given

theorem names_zip (names : List String) (vs : List β) :
    (names.zip vs).map (·.1) = names.take vs.length := by
  induction names generalizing vs with
  | nil => simp
  | cons name names ih =>
    cases vs with
    | nil => simp
    | cons v vs => simp [ih]

theorem values_zip_of_not_mem {names : List String} {name : String} (h : name ∉ names)
    (os : List Outline) : values (names.zip os) name = [] := by
  refine List.eq_nil_iff_forall_not_mem.mpr fun o ho => ?_
  exact h (List.of_mem_zip (mem_values.mp ho)).1

/-- Of names that are put before values each has the value in its place, if there is one. -/
theorem values_zip {names : List String} (hd : names.Nodup) {i : Nat} {name : String}
    (hi : names[i]? = some name) (os : List Outline) :
    values (names.zip os) name = os[i]?.toList := by
  induction names generalizing i os with
  | nil => simp at hi
  | cons first names ih =>
    obtain ⟨hfirst, hd⟩ := List.nodup_cons.mp hd
    cases os with
    | nil => simp [values]
    | cons o os =>
      rw [List.zip_cons_cons, values_cons]
      cases i with
      | zero =>
        obtain rfl : first = name := by simpa using hi
        rw [if_pos rfl, values_zip_of_not_mem hfirst]
        rfl
      | succ i =>
        have hi : names[i]? = some name := by simpa using hi
        have hne : first ≠ name := fun h => hfirst (h ▸ List.mem_of_getElem? hi)
        rw [if_neg hne, ih hd hi, List.getElem?_cons_succ]

end Given

namespace Outline

/-- The names of fields, in plain letters, are read as they are. -/
theorem named_ofText : ∀ g : Given, Named (g.map fun f => (StringBody.ofText f.1, f.2)) g
  | [] => .nil
  | f :: g => .cons ⟨StringBody.text_ofText f.1, rfl⟩ (named_ofText g)

/-- An object can be skipped when its names are read and its values can be skipped. -/
theorem Named.skipMembers {ms : List (StringBody × Outline)} {g : Given} (h : Named ms g)
    (hs : ∀ f ∈ g, f.2.skip = .ok ()) : Outline.skipMembers ms = .ok () := by
  induction h with
  | nil => rfl
  | cons hm _ ih =>
    obtain ⟨hf, hs⟩ := List.forall_mem_cons.mp hs
    exact skipMembers_cons.mpr ⟨StringBody.closed_of_text hm.1, hm.2 ▸ hf, ih hs⟩

theorem skipItems_iff {os : List Outline} :
    skipItems os = .ok () ↔ ∀ o ∈ os, o.skip = .ok () := by
  induction os with
  | nil => simp [skipItems]
  | cons o os ih => rw [skipItems_cons, List.forall_mem_cons, ih]

end Outline

namespace Form

/-- The fields that the items of an array stand for: each item has the name of the field in
its place. -/
def placed (form : Form) (os : List Outline) : Given :=
  (form.fields.map (·.name)).zip os

variable {form : Form}

/-! ### An array is collected as an object -/

/-- A member that is a field of the form, and the first one of its name, is collected when the
form takes its value. -/
theorem collectMembers_field {key : StringBody} {o : Outline} {ms : List (StringBody × Outline)}
    {got : Given} {rule : FieldRule} (hk : key.text = .ok rule.name)
    (hf : form.field? rule.name = some rule) (hnew : got.values rule.name = []) :
    form.collectMembers got ((key, o) :: ms) =
      (rule.check o >>= fun _ => form.collectMembers (got ++ [(rule.name, o)]) ms) := by
  have honce : form.checkOnce got rule.name = .ok () := by
    rw [checkOnce, Given.has_eq_false_iff.mpr hnew, Bool.and_false]
    rfl
  rw [collectMembers, hk]
  simp only [Decode.wellFormed, Except.mapError, bind, Except.bind, honce, hf]

/-- **The items of an array are collected as the members with the names of the fields in their
places**, as long as no field that has to be there is left out. -/
theorem collectItems_eq_collectMembers {rules : List FieldRule} {os : List Outline}
    {ms : List (StringBody × Outline)} {got : Given}
    (hf : ∀ rule ∈ rules, form.field? rule.name = some rule)
    (hd : (rules.map (·.name)).Nodup) (hnew : ∀ rule ∈ rules, got.values rule.name = [])
    (hms : Outline.Named ms ((rules.map (·.name)).zip os)) (hlen : os.length ≤ rules.length)
    (hrest : ∀ rule ∈ rules.drop os.length, rule.required = false) :
    form.collectItems .closed got rules os = form.collectMembers got ms := by
  induction rules generalizing os ms got with
  | nil =>
    obtain rfl : os = [] := List.eq_nil_of_length_eq_zero (Nat.le_zero.mp hlen)
    obtain rfl : ms = [] := List.forall₂_nil_right_iff.mp hms
    rfl
  | cons rule rules ih =>
    cases os with
    | nil =>
      -- nothing that is left of the form has to be there
      have hlength : form.checkLength got.length (rule :: rules) = .ok () :=
        checkLength_eq_ok.mpr hrest
      obtain rfl : ms = [] := List.forall₂_nil_right_iff.mp hms
      rw [collectItems, collectMembers, hlength]
      rfl
    | cons o os =>
      obtain ⟨⟨key, o⟩, ms, ⟨hk, rfl⟩, hrow, rfl⟩ := List.forall₂_cons_right_iff.mp hms
      obtain ⟨hrule, hf⟩ := List.forall_mem_cons.mp hf
      obtain ⟨hname, hd⟩ := List.nodup_cons.mp hd
      obtain ⟨hn, hnew⟩ := List.forall_mem_cons.mp hnew
      have hnew' : ∀ r ∈ rules, (got ++ [(rule.name, o)]).values r.name = [] := by
        intro r hr
        have hne : rule.name ≠ r.name := fun h => hname (List.mem_map.mpr ⟨r, hr, h.symm⟩)
        rw [Given.values_append, hnew r hr, Given.values_cons, if_neg hne]
        rfl
      rw [collectItems, collectMembers_field hk hrule hn,
        ih hf hd hnew' hrow (Nat.le_of_succ_le_succ hlen) hrest]

/-! ### Forms that ask for their first fields -/

/-- A form of `most` fields with names of their own, the first `least` of which have to be
there, and no others. -/
structure AsksFirst (form : Form) (least most : Nat) : Prop where
  names : (form.fields.map (·.name)).Nodup
  length : form.fields.length = most
  required : form.fields.map (·.required) =
    List.replicate least true ++ List.replicate (most - least) false

namespace AsksFirst

variable {least most : Nat}

/-- What an array leaves out may be left out when the array has enough items. -/
theorem optional_iff (h : form.AsksFirst least most) {n : Nat} :
    (∀ rule ∈ form.fields.drop n, rule.required = false) ↔ least ≤ n := by
  have hmap : (∀ rule ∈ form.fields.drop n, rule.required = false) ↔
      ∀ b ∈ (form.fields.map (·.required)).drop n, b = false := by
    rw [← List.map_drop, List.forall_mem_map]
  rw [hmap, h.required, List.drop_append, List.drop_replicate, List.drop_replicate,
    List.forall_mem_append]
  simp only [List.mem_replicate]
  constructor
  · intro hall
    by_contra hn
    exact Bool.noConfusion (hall.1 true ⟨by omega, rfl⟩)
  · intro hn
    exact ⟨fun b hb => by omega, fun b hb => hb.2⟩

/-- A field has the item in its place for a value, if there is one. -/
theorem values_placed (h : form.AsksFirst least most) {i : Nat} {name : String}
    (hname : (form.fields.map (·.name))[i]? = some name) (os : List Outline) :
    (form.placed os).values name = os[i]?.toList :=
  Given.values_zip h.names hname os

/-- What has to be there stands among the first items. -/
theorem values_placed_ne_nil (h : form.AsksFirst least most) {os : List Outline}
    (hlo : least ≤ os.length) {rule : FieldRule} (hr : rule ∈ form.fields)
    (hreq : rule.required = true) : (form.placed os).values rule.name ≠ [] := by
  obtain ⟨i, hi⟩ := List.getElem?_of_mem hr
  have hname : (form.fields.map (·.name))[i]? = some rule.name := by simp [hi]
  have hlt : i < os.length := by
    by_contra hge
    have hdrop : (form.fields.drop os.length)[i - os.length]? = some rule := by
      rw [List.getElem?_drop, Nat.add_sub_cancel' (Nat.le_of_not_lt hge), hi]
    have hfalse : rule.required = false :=
      h.optional_iff.mpr hlo rule (List.mem_of_getElem? hdrop)
    exact Bool.noConfusion (hreq.symm.trans hfalse)
  rw [h.values_placed hname, List.getElem?_eq_getElem hlt]
  exact List.cons_ne_nil _ _

/-- **An array is collected as the object with the names in their places.** -/
theorem collect_array (h : form.AsksFirst least most) {os : List Outline}
    {ms : List (StringBody × Outline)} (hlo : least ≤ os.length) (hhi : os.length ≤ most)
    (hms : Outline.Named ms (form.placed os)) :
    form.collect (.array os .closed) = form.collect (.object ms .closed) := by
  have hfound : ∀ rule ∈ form.fields, form.field? rule.name = some rule :=
    fun _ hr => field?_of_mem h.names hr
  have hitems : form.collectItems .closed [] form.fields os = form.collectMembers [] ms :=
    collectItems_eq_collectMembers hfound h.names (fun _ _ => rfl) hms (h.length ▸ hhi)
      (h.optional_iff.mpr hlo)
  rw [collect, collect, hitems]
  cases hgot : form.collectMembers [] ms with
  | error m => rfl
  | ok got =>
    -- the object ends as the array does, and misses nothing
    have hend : form.checkEnd got .closed = .ok () := rfl
    have hmissing : checkMissing got form.fields = .ok () := by
      have hnone : form.Once [] := fun _ _ => Nat.zero_le 1
      obtain ⟨g, hg, -, -, rfl⟩ := (collectMembers_eq_ok hnone).mp hgot
      obtain rfl : g = form.placed os := hg.unique hms
      refine checkMissing_eq_ok.mpr fun rule hr hreq => ?_
      rw [List.nil_append, values_among (isSome_field? hr)]
      exact h.values_placed_ne_nil hlo hr hreq
    simp only [bind, Except.bind, hend, hmissing]
    rfl

theorem read_array (h : form.AsksFirst least most) {build : Given → Except Mistake γ}
    {os : List Outline} {ms : List (StringBody × Outline)} (hlo : least ≤ os.length)
    (hhi : os.length ≤ most) (hms : Outline.Named ms (form.placed os)) :
    form.read build (.array os .closed) = form.read build (.object ms .closed) := by
  rw [read, read, h.collect_array hlo hhi hms]

/-- An array of too few or too many items is no such form, whatever stands behind them. -/
theorem read_array_of_length (h : form.AsksFirst least most) (build : Given → Except Mistake γ)
    {os : List Outline} (hlen : os.length < least ∨ most < os.length) (stop : ItemsEnd) :
    ∃ m, form.read build (.array os stop) = .error m := by
  cases hc : form.collect (.array os stop) with
  | error m => exact ⟨m, by rw [read, hc]; rfl⟩
  | ok got =>
    obtain ⟨hhi, hrest⟩ := length_of_collectItems hc
    have hlo := h.optional_iff.mp hrest
    rw [h.length] at hhi
    omega

end AsksFirst

/-- A reader makes the same of an array and of the object with the names of the form in their
places: the same value, or the same mistake. From an array that has fewer items than there
have to be, or more than there may be, it makes nothing. -/
structure ReadsAlike (form : Form) (least most : Nat) (read : Outline → Except Mistake γ) :
    Prop where
  alike : ∀ os ms bs bs', least ≤ os.length → os.length ≤ most →
    Outline.Named ms (form.placed os) → (Outline.array os .closed).Padded bs →
    (Outline.object ms .closed).Padded bs' → Decode.document read bs = Decode.document read bs'
  refused : ∀ os stop bs, os.length < least ∨ most < os.length →
    (Outline.read bs).1 = .array os stop → ∃ m, Decode.document read bs = .error m

theorem AsksFirst.readsAlike {least most : Nat} (h : form.AsksFirst least most)
    (build : Given → Except Mistake γ) : form.ReadsAlike least most (form.read build) where
  alike os ms bs bs' hlo hhi hms hbs hbs' := by
    rw [Decode.document_of_padded hbs, Decode.document_of_padded hbs', h.read_array hlo hhi hms]
  refused os stop bs hlen hbs := by
    obtain ⟨m, hm⟩ := h.read_array_of_length build hlen stop
    exact ⟨m, by simp only [Decode.document, hbs, hm, bind, Except.bind]⟩

end Form

/-! ### Values in their places -/

namespace Outline

/-- Values that hold what they have to, each in its place. -/
def Hold (ps : List (Outline → Prop)) (os : List Outline) : Prop :=
  List.Forall₂ (fun p o => p o) ps os

variable {ps : List (Outline → Prop)} {os : List Outline} {n i : Nat}

/-- The first values hold what they have to in the places that there are. -/
theorem Hold.getElem? (h : Hold (ps.take n) os) {p : Outline → Prop} (hp : ps[i]? = some p)
    (hi : i < n) : ∃ o, os[i]? = some o ∧ p o := by
  obtain ⟨hlen, hall⟩ := List.forall₂_iff_get.mp h
  have htake : (ps.take n)[i]? = some p := by rw [List.getElem?_take_of_lt hi, hp]
  obtain ⟨hi, rfl⟩ := List.getElem?_eq_some_iff.mp htake
  exact ⟨os[i], List.getElem?_eq_getElem _, hall i hi (hlen ▸ hi)⟩

theorem Hold.length (h : Hold (ps.take n) os) : os.length = min n ps.length := by
  rw [← List.Forall₂.length_eq h, List.length_take]

end Outline

namespace Form

variable {form : Form} {least most n i : Nat} {ps : List (Outline → Prop)} {os : List Outline}
  {g : Given} {name : String} {is : Outline → α → Prop} {default : Option α} {a d : α}

namespace AsksFirst

/-- Of a field whose value stands in its place a row with the same fields tells this value. -/
theorem tells_of_lt (h : form.AsksFirst least most) (hos : Outline.Hold (ps.take n) os)
    (hg : (form.placed os).Perm g) (hi : i < n)
    (hname : (form.fields.map (·.name))[i]? = some name) (hp : ps[i]? = some (is · a)) :
    g.Tells name is default a := by
  obtain ⟨o, ho, hval⟩ := hos.getElem? hp hi
  have hv : (form.placed os).values name = [o] := by
    rw [h.values_placed hname, ho]
    rfl
  exact Given.Tells.perm (.inl ⟨o, hv, hval⟩) (Given.values_perm hg name)

/-- Of a field that is left out it tells the default. -/
theorem tells_of_le (h : form.AsksFirst least most) (hos : Outline.Hold (ps.take n) os)
    (hg : (form.placed os).Perm g) (hi : n ≤ i)
    (hname : (form.fields.map (·.name))[i]? = some name) : g.Tells name is (some d) d := by
  have hnone : os[i]? = none := List.getElem?_eq_none (by rw [hos.length]; omega)
  have hv : (form.placed os).values name = [] := by
    rw [h.values_placed hname, hnone]
    rfl
  exact Given.Tells.perm (.inr ⟨hv, rfl⟩) (Given.values_perm hg name)

/-- **The first fields are told of by their values, and the others by their defaults.** -/
theorem tells_upTo (h : form.AsksFirst least most) (hos : Outline.Hold (ps.take n) os)
    (hg : (form.placed os).Perm g) (hname : (form.fields.map (·.name))[i]? = some name)
    (hp : ps[i]? = some (is · a)) : g.Tells name is (some d) (if i < n then a else d) := by
  by_cases hi : i < n
  · rw [if_pos hi]
    exact h.tells_of_lt hos hg hi hname hp
  · rw [if_neg hi]
    exact h.tells_of_le hos hg (Nat.le_of_not_lt hi) hname

end AsksFirst

/-- A reader makes `a` of the first `n` fields of a form with the values that they hold,
whether these stand in an array, or in an object behind their names, in any order. -/
structure ReadsFirst (form : Form) (read : Outline → Except Mistake γ)
    (ps : List (Outline → Prop)) (n : Nat) (a : γ) : Prop where
  placed : ∀ os bs, Outline.Hold (ps.take n) os → (Outline.array os .closed).Padded bs →
    Decode.document read bs = .ok a
  named : ∀ os g ms bs, Outline.Hold (ps.take n) os → (form.placed os).Perm g →
    Outline.Named ms g → (Outline.object ms .closed).Padded bs → Decode.document read bs = .ok a

/-- The first fields are read in both ways when `a` is built of every row with them. -/
theorem AsksFirst.readsFirst (h : form.AsksFirst least most) {build : Given → Except Mistake γ}
    {c : γ} (hlo : least ≤ n) (hhi : n ≤ most) (hps : ps.length = most)
    (hbuild : ∀ os g, Outline.Hold (ps.take n) os → (form.placed os).Perm g →
      (∀ f ∈ g, f.2.skip = .ok ()) →
      (∀ rule ∈ form.fields, rule.Fits (form.among g)) ∧ build (form.among g) = .ok c) :
    form.ReadsFirst (form.read build) ps n c where
  placed os bs hos hbs := by
    have hlen : os.length = n := by rw [hos.length]; omega
    have hnamed := Outline.named_ofText (form.placed os)
    have hskip : ∀ f ∈ form.placed os, f.2.skip = .ok () := fun f hf =>
      Outline.skipItems_iff.mp (Outline.skip_array.mp (Outline.skip_of_padded hbs)).1 f.2
        (List.of_mem_zip hf).2
    rw [Decode.document_of_padded hbs,
      h.read_array (by omega) (by omega) hnamed, read_object_iff h.names (hnamed.skipMembers hskip)]
    exact ⟨_, hnamed, hbuild os _ hos (.refl _) hskip⟩
  named os g ms bs hos hg hnamed hbs := by
    have hskip := (Outline.skip_object.mp (Outline.skip_of_padded hbs)).1
    rw [Decode.document_of_padded hbs, read_object_iff h.names hskip]
    exact ⟨g, hnamed, hbuild os g hos hg (hnamed.skip hskip)⟩

end Form

/-! ### Values that are written -/

namespace Json

/-- Values that can be written and hold what they have to, each in its place. -/
def Fill (ps : List (Outline → Prop)) (vs : List Json) : Prop :=
  List.Forall₂ (fun p v => v.isProper = true ∧ p v.outline) ps vs

theorem outlineItems_eq_map : ∀ vs : List Json, outlineItems vs = vs.map outline
  | [] => rfl
  | v :: vs => by rw [outlineItems, outlineItems_eq_map vs, List.map_cons]

/-- The fields of an object with names before values are the names before what stands in the
text for the values. -/
theorem given_zip (names : List String) (vs : List Json) :
    given (names.zip vs) = names.zip (outlineItems vs) := by
  rw [outlineItems_eq_map, List.zip_map_right]
  rfl

theorem Fill.hold {ps : List (Outline → Prop)} {vs : List Json} (h : Fill ps vs) :
    Outline.Hold ps (outlineItems vs) := by
  rw [outlineItems_eq_map]
  exact List.forall₂_map_right_iff.mpr (h.imp fun _ _ hv => hv.2)

theorem Fill.isProper {ps : List (Outline → Prop)} {vs : List Json} (h : Fill ps vs) :
    ∀ v ∈ vs, v.isProper = true := by
  induction h with
  | nil => exact List.forall_mem_nil _
  | cons hv _ ih => exact List.forall_mem_cons.mpr ⟨hv.1, ih⟩

/-- What a reader restores holds what the reader looks for. -/
theorem Restores.fills {read : Outline → Except Mistake α} {v : Json} {a : α}
    {is : Outline → α → Prop} (h : Restores read v a) (his : ∀ {o a}, read o = .ok a ↔ is o a) :
    v.isProper = true ∧ is v.outline a :=
  ⟨h.proper, his.mp h.read_outline⟩

end Json

open Json (Restores)

namespace Form

/-- A reader makes `a` of the first `n` of values in JSON, written as an array, or as an object
of them behind the names of the form, in any order. -/
structure ReadsWritten (form : Form) (read : Outline → Except Mistake γ) (vs : List Json)
    (n : Nat) (a : γ) : Prop where
  array : Decode.document read (Json.array (vs.take n)).bytes = .ok a
  object : ∀ ms, ((form.fields.map (·.name)).zip (vs.take n)).Perm ms →
    Decode.document read (Json.object ms).bytes = .ok a

/-- What is read of the first fields is read of them as they are written. -/
theorem ReadsFirst.written {form : Form} {read : Outline → Except Mistake γ}
    {ps : List (Outline → Prop)} {n : Nat} {a : γ} (h : form.ReadsFirst read ps n a)
    (hd : (form.fields.map (·.name)).Nodup) {vs : List Json} (hvs : Json.Fill ps vs) :
    form.ReadsWritten read vs n a := by
  have hfirst : Json.Fill (ps.take n) (vs.take n) := List.forall₂_take n hvs
  have hproper := hfirst.isProper
  refine ⟨?_, fun ms hms => ?_⟩
  · have hp : (Json.array (vs.take n)).isProper = true := by
      rw [Json.isProper]
      exact Json.areProperItems_iff.mpr hproper
    exact h.placed _ _ hfirst.hold (Outline.padded_of_written (Json.written_compact hp))
  · have hnames : (ms.map (·.1)).Nodup := by
      refine (hms.map _).nodup ?_
      rw [Given.names_zip]
      exact hd.sublist (List.take_sublist _ _)
    have hmembers : ∀ m ∈ ms, m.2.isProper = true := fun m hm =>
      hproper m.2 (List.of_mem_zip (hms.mem_iff.mpr hm)).2
    have hp : (Json.object ms).isProper = true := by
      rw [Json.isProper, Bool.and_eq_true, decide_eq_true_eq, Json.areProperMembers_iff]
      exact ⟨hnames, hmembers⟩
    have hrow : (form.placed (Json.outlineItems (vs.take n))).Perm (Json.given ms) := by
      rw [Form.placed, ← Json.given_zip]
      exact hms.map _
    exact h.named _ _ _ _ hfirst.hold hrow Json.named_outlineMembers
      (Outline.padded_of_written (Json.written_compact hp))

end Form

/-! ### Owners and records -/

namespace Owner

theorem asksFirst : form.AsksFirst 2 2 := ⟨by decide, rfl, rfl⟩

/-- An owner in JSON: an object with its two fields, or an array of them. -/
def IsWritten (w : Owner) (v : Json) : Prop :=
  v = w.toJson ∨ v = .array [.string w.id, .string w.email]

theorem IsWritten.fills {w : Owner} {v : Json} (h : w.IsWritten v) :
    v.isProper = true ∧ v.outline.IsOwner w := by
  rcases h with rfl | rfl
  · have hskip : w.toJson.outline.skip = .ok () :=
      Outline.skip_of_padded (Outline.padded_of_written (Json.written_compact w.restores.proper))
    exact ⟨w.restores.proper, (read_eq_ok hskip).mp w.restores.read_outline⟩
  · refine ⟨rfl, .inr ⟨_, _, rfl, ?_, ?_⟩⟩
    · exact Decode.string_eq_ok.mp (Restores.string w.id).read_outline
    · exact Decode.string_eq_ok.mp (Restores.string w.email).read_outline

end Owner

namespace Record

theorem asksFirst : form.AsksFirst 5 10 := ⟨by decide, rfl, rfl⟩

/-- What the fields of a record hold, in their order. -/
def values (r : Record) : List (Outline → Prop) := [
  (·.IsText r.id), (·.IsText r.fqdn), (·.IsText r.handlerHost),
  (·.IsInteger r.handlerPort.toNat), (·.IsProtocol r.handlerProtocol), (·.IsOwner r.owner),
  (·.IsTexts r.clients), (·.IsBool r.blacklist), (·.IsInteger r.createdAt.toInt),
  (·.IsInteger r.updatedAt.toInt)]

/-- The record with its first `n` fields, and with the defaults for the others. The five that
have none stay. -/
def upTo (r : Record) (n : Nat) : Record where
  id := r.id
  fqdn := r.fqdn
  handlerHost := r.handlerHost
  handlerPort := r.handlerPort
  handlerProtocol := r.handlerProtocol
  owner := if 5 < n then r.owner else ⟨"", ""⟩
  clients := if 6 < n then r.clients else []
  blacklist := if 7 < n then r.blacklist else false
  createdAt := if 8 < n then r.createdAt else 0
  updatedAt := if 9 < n then r.updatedAt else 0

/-- A row with the first fields of a record describes the record up to there. -/
theorem describes_upTo {r : Record} {n : Nat} (hn : 5 ≤ n) {os : List Outline} {g : Given}
    (hos : Outline.Hold (r.values.take n) os) (hg : (form.placed os).Perm g) :
    Describes g (r.upTo n) where
  id := asksFirst.tells_of_lt hos hg (show 0 < n by omega) rfl rfl
  fqdn := asksFirst.tells_of_lt hos hg (show 1 < n by omega) rfl rfl
  handlerHost := asksFirst.tells_of_lt hos hg (show 2 < n by omega) rfl rfl
  handlerPort := asksFirst.tells_of_lt hos hg (show 3 < n by omega) rfl rfl
  handlerProtocol := asksFirst.tells_of_lt hos hg (show 4 < n by omega) rfl rfl
  owner := asksFirst.tells_upTo hos hg rfl rfl
  clients := asksFirst.tells_upTo hos hg rfl rfl
  blacklist := asksFirst.tells_upTo hos hg rfl rfl
  createdAt := asksFirst.tells_upTo hos hg rfl rfl
  updatedAt := asksFirst.tells_upTo hos hg rfl rfl

theorem readsFirst (r : Record) {n : Nat} (hlo : 5 ≤ n) (hhi : n ≤ 10) :
    form.ReadsFirst Record.read r.values n (r.upTo n) :=
  asksFirst.readsFirst hlo hhi rfl fun _ _ hos hg hs =>
    (describes_iff hs).mpr (describes_upTo hlo hos hg)

/-- The values of the fields in JSON, in their order, with a value for the owner. -/
def written (r : Record) (owner : Json) : List Json := [
  .string r.id, .string r.fqdn, .string r.handlerHost, .int r.handlerPort.toNat,
  .string r.handlerProtocol.text, owner, .array (r.clients.map .string), .bool r.blacklist,
  .int r.createdAt.toInt, .int r.updatedAt.toInt]

theorem fill_written (r : Record) {owner : Json} (h : r.owner.IsWritten owner) :
    Json.Fill r.values (r.written owner) :=
  .cons ((Restores.string r.id).fills Decode.string_eq_ok) <|
    .cons ((Restores.string r.fqdn).fills Decode.string_eq_ok) <|
    .cons ((Restores.string r.handlerHost).fills Decode.string_eq_ok) <|
    .cons ((Restores.uint16 r.handlerPort).fills Decode.uint16_eq_ok) <|
    .cons ((Restores.protocol r.handlerProtocol).fills Protocol.read_eq_ok) <|
    .cons h.fills <|
    .cons ((Restores.texts r.clients).fills Decode.texts_eq_ok) <|
    .cons ((Restores.bool r.blacklist).fills Decode.bool_eq_ok) <|
    .cons ((Restores.int64 r.createdAt).fills Decode.int64_eq_ok) <|
    .cons ((Restores.int64 r.updatedAt).fills Decode.int64_eq_ok) .nil

end Record

/-! ### Users -/

namespace User

theorem asksFirst : form.AsksFirst 2 4 := ⟨by decide, rfl, rfl⟩

/-- What the fields of a user hold, in their order. The password is none of them. -/
def values (u : User) : List (Outline → Prop) := [
  (·.IsText u.id), (·.IsText u.email), (·.IsInteger u.createdAt.toInt),
  (·.IsInteger u.updatedAt.toInt)]

/-- The user with the first `n` fields, without the password, and with the defaults for the
others. The two that have none stay. -/
def upTo (u : User) (n : Nat) : User where
  id := u.id
  email := u.email
  password := none
  createdAt := if 2 < n then u.createdAt else 0
  updatedAt := if 3 < n then u.updatedAt else 0

/-- A row of fields describes a user without a password: it tells of each of the four fields,
and may leave out the instants. -/
structure Describes (g : Given) (u : User) : Prop where
  id : g.Tells "id" Outline.IsText none u.id
  email : g.Tells "email" Outline.IsText none u.email
  password : u.password = none
  createdAt : g.Tells "created_at" (fun o n => o.IsInteger n.toInt) (some 0) u.createdAt
  updatedAt : g.Tells "updated_at" (fun o n => o.IsInteger n.toInt) (some 0) u.updatedAt

theorem describes_iff {g : Given} {u : User} :
    (∀ rule ∈ form.fields, rule.Fits (form.among g)) ∧ build (form.among g) = .ok u ↔
      Describes g u := by
  have hfields : form.fields =
      [idField.rule, emailField.rule, createdAtField.rule, updatedAtField.rule] := rfl
  rw [build, hfields]
  simp only [Field.tells_bind, form.tells_text idField (by simp [form]) rfl,
    form.tells_text emailField (by simp [form]) rfl,
    form.tells_instant createdAtField (by simp [form]) rfl,
    form.tells_instant updatedAtField (by simp [form]) rfl]
  constructor
  · rintro ⟨id, h₁, email, h₂, created, h₃, updated, h₄, -, h⟩
    cases h
    exact ⟨h₁, h₂, rfl, h₃, h₄⟩
  · rintro ⟨h₁, h₂, hnone, h₃, h₄⟩
    obtain ⟨id, email, password, created, updated⟩ := u
    obtain rfl : password = none := hnone
    exact ⟨_, h₁, _, h₂, _, h₃, _, h₄, List.forall_mem_nil _, rfl⟩

/-- A row with the first fields of a user describes the user up to there. -/
theorem describes_upTo {u : User} {n : Nat} (hn : 2 ≤ n) {os : List Outline} {g : Given}
    (hos : Outline.Hold (u.values.take n) os) (hg : (form.placed os).Perm g) :
    Describes g (u.upTo n) where
  id := asksFirst.tells_of_lt hos hg (show 0 < n by omega) rfl rfl
  email := asksFirst.tells_of_lt hos hg (show 1 < n by omega) rfl rfl
  password := rfl
  createdAt := asksFirst.tells_upTo hos hg rfl rfl
  updatedAt := asksFirst.tells_upTo hos hg rfl rfl

theorem readsFirst (u : User) {n : Nat} (hlo : 2 ≤ n) (hhi : n ≤ 4) :
    form.ReadsFirst User.read u.values n (u.upTo n) :=
  asksFirst.readsFirst hlo hhi rfl fun _ _ hos hg _ =>
    describes_iff.mpr (describes_upTo hlo hos hg)

/-- The values of the fields in JSON, in their order. -/
def written (u : User) : List Json :=
  [.string u.id, .string u.email, .int u.createdAt.toInt, .int u.updatedAt.toInt]

theorem fill_written (u : User) : Json.Fill u.values u.written :=
  .cons ((Restores.string u.id).fills Decode.string_eq_ok) <|
    .cons ((Restores.string u.email).fills Decode.string_eq_ok) <|
    .cons ((Restores.int64 u.createdAt).fills Decode.int64_eq_ok) <|
    .cons ((Restores.int64 u.updatedAt).fills Decode.int64_eq_ok) .nil

end User

/-! ### Both forms -/

/-- Records, users and owners are read from arrays as from objects. What an array with a value
for each field without a default, and no more values than there are fields, is read as, is
what the object with the names in their places is read as, and no other array is read. The
first fields of a record or a user are read as the record or the user with the defaults for
the others, from an array and from an object in any order, also where the owner of a record
stands in its other form. -/
structure ReadByPlace : Prop where
  record : Record.form.ReadsAlike 5 10 Record.read
  user : User.form.ReadsAlike 2 4 User.read
  owner : Owner.form.ReadsAlike 2 2 Owner.read
  firstOfRecord : ∀ (r : Record) n, 5 ≤ n → n ≤ 10 →
    Record.form.ReadsFirst Record.read r.values n (r.upTo n)
  firstOfUser : ∀ (u : User) n, 2 ≤ n → n ≤ 4 →
    User.form.ReadsFirst User.read u.values n (u.upTo n)
  writtenRecord : ∀ (r : Record) owner n, r.owner.IsWritten owner → 5 ≤ n → n ≤ 10 →
    Record.form.ReadsWritten Record.read (r.written owner) n (r.upTo n)
  writtenUser : ∀ (u : User) n, 2 ≤ n → n ≤ 4 →
    User.form.ReadsWritten User.read u.written n (u.upTo n)

/-- **Fields are read by place as they are read by name.** -/
theorem read_by_place : ReadByPlace where
  record := Record.asksFirst.readsAlike Record.build
  user := User.asksFirst.readsAlike User.build
  owner := Owner.asksFirst.readsAlike _
  firstOfRecord r _ hlo hhi := r.readsFirst hlo hhi
  firstOfUser u _ hlo hhi := u.readsFirst hlo hhi
  writtenRecord r _ _ hw hlo hhi :=
    (r.readsFirst hlo hhi).written Record.asksFirst.names (r.fill_written hw)
  writtenUser u _ hlo hhi := (u.readsFirst hlo hhi).written User.asksFirst.names u.fill_written

/-- The third value of a user is the instant of its creation, not a password. -/
example : Decode.document User.read (Utf8.bytes "[\"u-1\", \"a@b.c\", -5]") =
    .ok ⟨"u-1", "a@b.c", none, -5, 0⟩ := by
  decide +kernel

end ProxyConsole
