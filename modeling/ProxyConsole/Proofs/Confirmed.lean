/-
# What a local entity shows between calls

A local entity is changed before the server has confirmed the change. Once the
call is over it shows what the server confirmed: the copy that came back when
the answer was a success that holds one, and otherwise what it showed before.
So after any edits, with anything done to the session between them, it shows the
copy that came back last, or what it showed first when none came back.

Key definitions: `ReadSettled`, `Collection.received?`, `Collection.push`,
`Collection.copies`, `Collection.ShowsConfirmed`.
Key theorems: `Collection.updateWith_cases`, `Collection.pushAll_entity`,
`Collection.showsConfirmed`, `Collection.local_confirmed`.
-/
import ProxyConsole.Proofs.Denial
import ProxyConsole.Screen.Record

namespace ProxyConsole

theorem Decode.read_of_document {read : Outline → Except Mistake α} {bs : List UInt8} {v : α}
    (h : document read bs = .ok v) : ∃ o, read o = .ok v := by
  unfold document at h
  cases hr : read (Outline.read bs).1 with
  | error m => simp [hr, bind, Except.bind] at h
  | ok w =>
    simp only [hr, bind, Except.bind, pure, Except.pure] at h
    split at h
    · exact ⟨_, hr.trans h⟩
    · cases h

theorem Form.build_of_read {form : Form} {build : Given → Except Mistake α} {o : Outline} {v : α}
    (h : form.read build o = .ok v) : ∃ g, build g = .ok v := by
  unfold Form.read at h
  cases hg : form.collect o with
  | error m => simp [hg, bind, Except.bind] at h
  | ok g => exact ⟨g, by simpa [hg, bind, Except.bind] using h⟩

/-- A user that was read has no password. -/
theorem User.password_of_read {o : Outline} {u : User} (h : User.read o = .ok u) :
    u.password = none := by
  obtain ⟨g, hg⟩ := Form.build_of_read h
  exact password_of_build hg

/-- Entities for which nothing is left out of a copy that was read. -/
class ReadSettled (E : Type) [Entity E] : Prop where
  settle_of_read {o : Outline} {e : E} : Entity.read o = .ok e → Entity.settle e = e

instance : ReadSettled Record := ⟨fun _ => rfl⟩

instance : ReadSettled User where
  settle_of_read {o e} h := by
    have hp : e.password = none := User.password_of_read h
    cases e
    cases hp
    rfl

/-- A local entity goes back to what it was, whatever was done to it. -/
theorem Edit.entity_rollBack_begin (change : E → E) (e : E) :
    ((begin e).apply change).rollBack.entity = e := rfl

namespace Collection

variable {E : Type} [Entity E]

/-! ### One edit -/

/-- The copy that the server sends back for an edit: what a successful answer holds that
arrived whole. -/
def received? (c : Setup) (d : Edit E) (s : Session) : Option E :=
  match s.answer? c (updateAsk d) with
  | some a =>
    if a.isSuccess && a.whole then (Decode.document Entity.read a.body).toOption else none
  | none => none

theorem received?_eq_some {c : Setup} {d : Edit E} {v : E} {s : Session} :
    received? c d s = some v ↔
      ∃ a, s.answer? c (updateAsk d) = some a ∧
        a.isSuccess = true ∧ a.whole = true ∧ Decode.document Entity.read a.body = .ok v := by
  constructor
  · intro h
    unfold received? at h
    split at h
    · next a ha =>
      split at h
      · next hb =>
        rw [Bool.and_eq_true] at hb
        refine ⟨a, ha, hb.1, hb.2, ?_⟩
        cases hd : Decode.document (Entity.read (E := E)) a.body with
        | error m =>
          rw [hd] at h
          cases h
        | ok w =>
          rw [hd] at h
          cases h
          rfl
      · cases h
    · cases h
  · rintro ⟨a, ha, hs, hw, hd⟩
    simp [received?, ha, hs, hw, hd, Except.toOption]

/-- The copy that comes back is what the call of the edit fetches. -/
theorem received?_eq_some_iff_fetch {c : Setup} {d : Edit E} {v : E} {s : Session} :
    received? c d s = some v ↔
      (s.fetch c (Entity.read (E := E)) (updateAsk d)).1 = .ok v := by
  rw [received?_eq_some, Session.fetch_eq_ok]

theorem received?_of_error {c : Setup} {d : Edit E} {f : Failure} {s : Session}
    (hf : (s.fetch c (Entity.read (E := E)) (updateAsk d)).1 = .error f) :
    received? c d s = none := by
  refine Option.eq_none_iff_forall_ne_some.mpr fun v hv => ?_
  rw [received?_eq_some_iff_fetch, hf] at hv
  cases hv

theorem update_of_ok {c : Setup} {h : Handler} {d : Edit E} {s : Session} {v : E}
    (hf : (s.fetch c (Entity.read (E := E)) (updateAsk d)).1 = .ok v) :
    (update c h d s).1 = .ok (Entity.settle v) ∧ (update c h d s).2.1 = d.commit v := by
  unfold update
  generalize s.fetch c (Entity.read (E := E)) (updateAsk d) = r at hf ⊢
  obtain ⟨_, t⟩ := r
  cases hf
  exact ⟨rfl, rfl⟩

theorem update_of_error {c : Setup} {h : Handler} {d : Edit E} {s : Session} {f : Failure}
    (hf : (s.fetch c (Entity.read (E := E)) (updateAsk d)).1 = .error f) :
    (update c h d s).1 = .error f ∧ (update c h d s).2.1 = d.rollBack := by
  unfold update
  generalize s.fetch c (Entity.read (E := E)) (updateAsk d) = r at hf ⊢
  obtain ⟨_, t⟩ := r
  cases hf
  exact ⟨rfl, rfl⟩

/-- An edit ends in one of two ways: with the copy of the server, which is returned and
shown, or with a failure and what was shown before. -/
theorem updateWith_cases [ReadSettled E] (c : Setup) (h : Handler) (change : E → E) (e : E)
    (s : Session) :
    (∃ v, received? c ((Edit.begin e).apply change) s = some v ∧ (updateWith c h change e s).1 = .ok v ∧
      (updateWith c h change e s).2.1 = v) ∨
    (received? c ((Edit.begin e).apply change) s = none ∧ (∃ f, (updateWith c h change e s).1 = .error f) ∧
      (updateWith c h change e s).2.1 = e) := by
  cases hf : (s.fetch c (Entity.read (E := E)) (updateAsk ((Edit.begin e).apply change))).1 with
  | ok v =>
    obtain ⟨hr, hd⟩ := update_of_ok (h := h) hf
    obtain ⟨a, -, -, -, hb⟩ := Session.fetch_eq_ok.mp hf
    obtain ⟨o, ho⟩ := Decode.read_of_document hb
    have hs : Entity.settle v = v := ReadSettled.settle_of_read ho
    refine Or.inl ⟨v, received?_eq_some_iff_fetch.mpr hf, ?_, ?_⟩
    · rw [updateWith, hr, hs]
    · rw [updateWith, hd, Edit.commit, hs]
  | error f =>
    obtain ⟨hr, hd⟩ := update_of_error (h := h) hf
    refine Or.inr ⟨received?_of_error hf, ⟨f, hr⟩, ?_⟩
    rw [updateWith, hd]
    exact Edit.entity_rollBack_begin change e

/-! ### Rows of edits -/

/-- An edit of a local entity, with what is done to the session before it. -/
structure Push (E : Type) where
  before : List Deed
  handler : Handler
  change : E → E

/-- The local entity and the session after an edit. -/
def push (c : Setup) (x : E × Session) (p : Push E) : E × Session :=
  (updateWith c p.handler p.change x.1 (x.2.after c p.before)).2

/-- The local entity and the session after edits, in their order. -/
def pushAll (c : Setup) (x : E × Session) (ps : List (Push E)) : E × Session :=
  ps.foldl (push c) x

/-- The copies that come back for edits, in their order. -/
def copies (c : Setup) (x : E × Session) : List (Push E) → List E
  | [] => []
  | p :: ps =>
    (received? c ((Edit.begin x.1).apply p.change) (x.2.after c p.before)).toList ++ copies c (push c x p) ps

theorem push_entity [ReadSettled E] (c : Setup) (x : E × Session) (p : Push E) :
    (push c x p).1 = (received? c ((Edit.begin x.1).apply p.change) (x.2.after c p.before)).getD x.1 := by
  rcases updateWith_cases c p.handler p.change x.1 (x.2.after c p.before) with
    ⟨v, hc, -, hv⟩ | ⟨hc, -, hv⟩
  · rw [hc, push, hv]
    rfl
  · rw [hc, push, hv]
    rfl

/-- After edits the local entity is the copy that came back last, or what it was. -/
theorem pushAll_entity [ReadSettled E] (c : Setup) : ∀ (ps : List (Push E)) (x : E × Session),
    (pushAll c x ps).1 = (copies c x ps).getLastD x.1
  | [], _ => rfl
  | p :: ps, x => by
    have ih := pushAll_entity c ps (push c x p)
    have hp := push_entity c x p
    simp only [pushAll, List.foldl_cons, copies] at ih ⊢
    rw [ih, hp]
    cases received? c ((Edit.begin x.1).apply p.change) (x.2.after c p.before) with
    | none => rfl
    | some v => rw [Option.toList_some, List.singleton_append, List.getLastD_cons]; rfl

/-- Local entities of a type show nothing but what the server confirmed: an edit returns
a copy exactly when its answer is a success that arrives whole and holds that copy, which
is then shown; an edit that fails leaves what was shown; and after a row of edits the copy
that came back last is shown. At a plain server the answers are those of its script. -/
structure ShowsConfirmed (E : Type) [Entity E] (c : Setup) : Prop where
  script : c.isPlain = true → Session.FollowsScript c
  ok_iff : ∀ h (change : E → E) e s v, (updateWith c h change e s).1 = .ok v ↔
    ∃ a, s.answer? c (updateAsk ((Edit.begin e).apply change)) = some a ∧
      a.isSuccess = true ∧ a.whole = true ∧ Decode.document Entity.read a.body = .ok v
  shown_of_ok : ∀ h (change : E → E) e s v, (updateWith c h change e s).1 = .ok v →
    (updateWith c h change e s).2.1 = v
  shown_of_error : ∀ h (change : E → E) e s f, (updateWith c h change e s).1 = .error f →
    (updateWith c h change e s).2.1 = e
  shown_after : ∀ (e : E) s ps, (pushAll c (e, s) ps).1 = (copies c (e, s) ps).getLastD e

theorem showsConfirmed (E : Type) [Entity E] [ReadSettled E] (c : Setup) : ShowsConfirmed E c where
  script := Session.follows_script
  ok_iff h change e s v := by
    rw [← received?_eq_some]
    rcases updateWith_cases c h change e s with ⟨w, hc, hr, -⟩ | ⟨hc, ⟨f, hr⟩, -⟩
    · rw [hr, hc, Except.ok.injEq, Option.some.injEq]
    · rw [hr, hc]
      simp
  shown_of_ok h change e s v hv := by
    rcases updateWith_cases c h change e s with ⟨w, -, hr, hs⟩ | ⟨-, ⟨f, hr⟩, -⟩
    · rw [hr] at hv
      cases hv
      exact hs
    · rw [hr] at hv
      cases hv
  shown_of_error h change e s f hf := by
    rcases updateWith_cases c h change e s with ⟨w, -, hr, -⟩ | ⟨-, -, hs⟩
    · rw [hr] at hf
      cases hf
    · exact hs
  shown_after e s ps := pushAll_entity c ps (e, s)

theorem password_of_updateWith {c : Setup} {h : Handler} {change : User → User} {u v : User}
    {s : Session} (hv : (updateWith c h change u s).1 = .ok v) : v.password = none := by
  obtain ⟨a, -, -, -, hb⟩ := ((showsConfirmed User c).ok_iff h change u s v).mp hv
  obtain ⟨o, ho⟩ := Decode.read_of_document hb
  exact User.password_of_read ho

end Collection

/-- What a page of a record makes of an edit of the record it shows. -/
def RecordScreen.edited (p : RecordScreen) (answer : α)
    (r : Except Failure Record × Record × Session) :
    Except Failure α × RecordScreen × Session :=
  (r.1.map fun _ => answer, { p with record := r.2.1 }, r.2.2)

/-- **Local entities show what the server confirmed.** This holds of records and of users,
whose copies hold no password, and the three changes that the page of a record offers are
such edits of the record that it shows. -/
theorem Collection.local_confirmed (c : Setup) :
    ShowsConfirmed Record c ∧ ShowsConfirmed User c ∧
    (∀ h change (u v : User) s, (updateWith c h change u s).1 = .ok v → v.password = none) ∧
    (∀ (p : RecordScreen) s blacklist, p.setBlacklist c blacklist s =
      p.edited () (updateWith c .banner (fun r => { r with blacklist }) p.record s)) ∧
    (∀ (p : RecordScreen) s email, p.saveOwner c email s =
      p.edited (p.record.retarget email p.users).1
        (updateWith c .banner (fun r => (r.retarget email p.users).2) p.record s)) ∧
    (∀ (p : RecordScreen) s, p.clearClients c s =
      p.edited () (updateWith c .banner (fun r => { r with clients := [] }) p.record s)) := by
  refine ⟨showsConfirmed Record c, showsConfirmed User c, ?_, ?_, ?_, ?_⟩
  · intro h change u v s hv
    exact password_of_updateWith hv
  · intro p s blacklist
    rfl
  · intro p s email
    rfl
  · intro p s
    rfl

end ProxyConsole
