/-
# Which slot a console has cannot be seen

A console whose slot is in memory and one whose slot is a file that holds the same
text give the same answers, send the same requests, go to the same places and show
the same, whatever is done with them, as long as the file can be written at first.

All of it is shown of desks whose servers differ as well, in what is hidden by a veil: there
the same comes of an act, or else failures that are twins.

Key definitions: `Act.Outcome`, `Act.Like`, `Desk.answer`, `Desk.Turn`, `Desk.Sight`,
`FileSlot.Holds`.
Key theorems: `Collection.alike_use`, `Console.alike_within`, `Desk.Twin.act`,
`Desk.Twin.turns`, `Desk.interchangeable`.
-/
import ProxyConsole.Proofs.Desk
import ProxyConsole.Proofs.Twin

namespace ProxyConsole

open Session (Alike)

variable {veil : Veil}

/-! ### Collections -/

namespace Collection

/-- The results of a use of a collection. -/
def Use.Outcome {E : Type} [Entity E] : Use E → Type
  | .get _ => Except Failure E
  | .query _ => Except Failure (List E)
  | .create _ => Except Failure E
  | .update _ => Except Failure E × Edit E
  | .updateWith _ _ => Except Failure E × E
  | .remove _ => Except Failure Unit
  | .removeFrom _ _ => Except Failure Unit × List E

namespace Use

variable {E : Type} [Entity E]

/-- Results of a use that are alike. -/
def Like (veil : Veil) : (u : Use E) → u.Outcome → u.Outcome → Prop
  | .get _ | .query _ | .create _ | .remove _ => Result.Like veil
  | .update _ | .updateWith _ _ | .removeFrom _ _ => Result.LikeWith veil

/-- The failure that came of a use. -/
def failureIn : (u : Use E) → u.Outcome → Option Failure
  | .get _, r | .query _, r | .create _, r | .remove _, r => Failure.of? r
  | .update _, r | .updateWith _ _, r | .removeFrom _ _, r => Failure.of? r.1

theorem Like.eq {u : Use E} {r r' : u.Outcome} (h : u.Like veil r r')
    (hf : ∀ f g, u.failureIn r = some f → f.Twin veil g → f = g) : r = r' := by
  cases u with
  | get | query | create | remove => exact Result.Like.eq h hf
  | update | updateWith | removeFrom => exact Result.LikeWith.eq h hf

end Use

variable {E : Type} [Entity E]

/-- What comes of a use of a collection. -/
def answer (c : Setup) (h : Handler) (s : Session) : (u : Use E) → u.Outcome
  | .get id => (get E c h id s).1
  | .query filter => (query E c h filter s).1
  | .create draft => (create E c h draft s).1
  | .update d => ((update c h d s).1, (update c h d s).2.1)
  | .updateWith change e => ((updateWith c h change e s).1, (updateWith c h change e s).2.1)
  | .remove e => (remove c h e s).1
  | .removeFrom kept id => ((removeFrom c h kept id s).1, (removeFrom c h kept id s).2.1)

theorem alike_report (h : Handler) {x y : Except Failure α × Session}
    (hx : Alike veil (Result.Like veil) x y) :
    Alike veil (Result.Like veil) (report h x) (report h y) := by
  cases hx with
  | mk result twin =>
    cases result with
    | ok a => exact .mk (.ok a) twin
    | error hf => exact .mk (.error hf) (twin.handle h hf)

variable {c : Setup} {s t : Session} (hst : s.Twin veil t)

include hst

theorem alike_update [Entity.IsBlind E] (h : Handler) (d : Edit E) :
    Alike veil (Result.LikeWith veil)
      (((update c h d s).1, (update c h d s).2.1), (update c h d s).2.2)
      (((update c h d t).1, (update c h d t).2.1), (update c h d t).2.2) := by
  obtain ⟨r, r', s', t', hs, ht, hr, twin⟩ :=
    (Session.alike_fetch hst (c := c) (Entity.IsBlind.read (E := E)) (updateAsk d)).exists_eq
  unfold update
  rw [hs, ht]
  cases hr with
  | ok e => exact .mk ⟨.ok _, rfl⟩ twin
  | error hf => exact .mk ⟨.error hf, rfl⟩ (twin.handle h hf)

theorem alike_removeFrom (h : Handler) (kept : List E) (id : String) :
    Alike veil (Result.LikeWith veil)
      (((removeFrom c h kept id s).1, (removeFrom c h kept id s).2.1),
        (removeFrom c h kept id s).2.2)
      (((removeFrom c h kept id t).1, (removeFrom c h kept id t).2.1),
        (removeFrom c h kept id t).2.2) := by
  obtain ⟨r, r', s', t', hs, ht, hr, twin⟩ :=
    (alike_report h (Session.alike_tell hst (c := c) (.delete (Entity.itemPath E id)))).exists_eq
  unfold removeFrom
  rw [hs, ht]
  cases hr with
  | ok u => exact .mk ⟨.ok u, rfl⟩ twin
  | error hf => exact .mk ⟨.error hf, rfl⟩ twin

/-- A use of a collection comes to the same in both sessions. -/
theorem alike_use [Entity.IsBlind E] (h : Handler) (u : Use E) :
    Alike veil (u.Like veil) (answer c h s u, use c h s u) (answer c h t u, use c h t u) := by
  cases u with
  | get id => exact alike_report h (Session.alike_fetch hst Entity.IsBlind.read _)
  | query filter =>
    exact alike_report h (Session.alike_fetch hst (Decode.isBlind_list Entity.IsBlind.read) _)
  | create draft => exact alike_report h (Session.alike_fetch hst Entity.IsBlind.read _)
  | update d => exact alike_update hst h d
  | updateWith change e =>
    refine (alike_update hst h ((Edit.begin e).apply change)).map
      (f := fun r => (r.1, r.2.entity)) ?_
    exact fun _ _ hr => ⟨hr.1, congrArg Edit.entity hr.2⟩
  | remove e => exact alike_report h (Session.alike_tell hst _)
  | removeFrom kept id => exact alike_removeFrom hst h kept id

end Collection

/-! ### Pages -/

namespace RecordScreen

/-- The results of what is done on the page of a record, with the page after it. -/
def Act.Outcome : Act → Type
  | .setBlacklist _ => Except Failure Unit × RecordScreen
  | .saveOwner _ => Except Failure Bool × RecordScreen
  | .clearClients => Except Failure Unit × RecordScreen
  | .delete => Except Failure Route

/-- Results of an act on the page of a record that are alike. -/
def Act.Like (veil : Veil) : (a : Act) → a.Outcome → a.Outcome → Prop
  | .setBlacklist _ | .saveOwner _ | .clearClients => Result.LikeWith veil
  | .delete => Result.Like veil

/-- The failure that came of an act on the page of a record. -/
def Act.failureIn : (a : Act) → a.Outcome → Option Failure
  | .setBlacklist _, r | .saveOwner _, r | .clearClients, r => Failure.of? r.1
  | .delete, r => Failure.of? r

theorem Act.Like.eq {a : Act} {r r' : a.Outcome} (h : a.Like veil r r')
    (hf : ∀ f g, a.failureIn r = some f → f.Twin veil g → f = g) : r = r' := by
  cases a with
  | setBlacklist | saveOwner | clearClients => exact Result.LikeWith.eq h hf
  | delete => exact Result.Like.eq h hf

/-- What comes of an act on the page of a record. -/
def answer (c : Setup) (p : RecordScreen) (s : Session) : (a : Act) → a.Outcome
  | .setBlacklist blacklist =>
    ((p.setBlacklist c blacklist s).1, (p.setBlacklist c blacklist s).2.1)
  | .saveOwner email => ((p.saveOwner c email s).1, (p.saveOwner c email s).2.1)
  | .clearClients => ((p.clearClients c s).1, (p.clearClients c s).2.1)
  | .delete => (p.delete c s).1

variable {c : Setup} {s t : Session} (hst : s.Twin veil t)

include hst

theorem alike_load (id : String) :
    Alike veil (Result.Like veil) (load c id s) (load c id t) := by
  rw [load_eq_andThen, load_eq_andThen]
  refine (Collection.alike_use hst .banner (.get id : Collection.Use Record)).andThen ?_
  intro record s t hst
  refine (Collection.alike_use hst .banner (.query [] : Collection.Use User)).andThen ?_
  exact fun users _ _ twin => .mk (.ok _) twin

theorem alike_change (edit : Record → Record) (p : RecordScreen) :
    Alike veil (Result.LikeWith veil)
      (((p.change c edit s).1, (p.change c edit s).2.1), (p.change c edit s).2.2)
      (((p.change c edit t).1, (p.change c edit t).2.1), (p.change c edit t).2.2) := by
  refine (Collection.alike_use hst .banner (.updateWith edit p.record)).map
    (f := fun r => (r.1, { p with record := r.2 })) ?_
  exact fun _ _ hr => ⟨hr.1, congrArg (fun r => { p with record := r }) hr.2⟩

theorem alike_delete (p : RecordScreen) :
    Alike veil (Result.Like veil) (p.delete c s) (p.delete c t) := by
  rw [delete_eq_andThen, delete_eq_andThen]
  refine (Collection.alike_use hst .banner (.remove p.record)).andThen fun _ _ _ twin => ?_
  refine (Session.alike_navigate twin .records).map (f := Except.ok) ?_
  exact fun _ _ hr => hr ▸ .ok _

omit hst in
/-- What is made of a change that comes to the same, with the page that is left. -/
theorem alike_changed {x y : (Except Failure Record × RecordScreen) × Session}
    (h : Alike veil (Result.LikeWith veil) x y) (g : Record → α) :
    Alike veil (fun r r' => Result.LikeWith veil r.1 r'.1 ∧ r.2 = r'.2)
      (((x.1.1.map g, x.1.2), some x.1.2), x.2) (((y.1.1.map g, y.1.2), some y.1.2), y.2) := by
  cases h with
  | mk result twin => exact .mk ⟨⟨result.1.map g, result.2⟩, congrArg some result.2⟩ twin

/-- An act on the page of a record comes to the same in both sessions. -/
theorem alike_act (p : RecordScreen) (a : Act) :
    Alike veil (fun r r' => a.Like veil r.1 r'.1 ∧ r.2 = r'.2)
      ((p.answer c s a, (p.act c s a).1), (p.act c s a).2)
      ((p.answer c t a, (p.act c t a).1), (p.act c t a).2) := by
  cases a with
  | setBlacklist blacklist =>
    exact alike_changed (alike_change hst (fun r => { r with blacklist }) p) fun _ => ()
  | saveOwner email =>
    exact alike_changed (alike_change hst (fun r => (r.retarget email p.users).2) p)
      fun _ => (p.record.retarget email p.users).1
  | clearClients =>
    exact alike_changed (alike_change hst (fun r => { r with clients := [] }) p) fun _ => ()
  | delete => exact (alike_delete hst p).map (f := fun r => (r, none)) fun _ _ hr => ⟨hr, rfl⟩

end RecordScreen

namespace UserScreen

/-- The results of what is done on the page of a user, with the page after it. -/
def Act.Outcome : Act → Type
  | .fill _ _ => UserScreen
  | .submitPassword => UserScreen
  | .delete => Except Failure Route

/-- Results of an act on the page of a user that are alike. -/
def Act.Like (veil : Veil) : (a : Act) → a.Outcome → a.Outcome → Prop
  | .fill _ _ | .submitPassword => Eq
  | .delete => Result.Like veil

/-- The failure that came of an act on the page of a user. -/
def Act.failureIn : (a : Act) → a.Outcome → Option Failure
  | .fill _ _, _ | .submitPassword, _ => none
  | .delete, r => Failure.of? r

theorem Act.Like.eq {a : Act} {r r' : a.Outcome} (h : a.Like veil r r')
    (hf : ∀ f g, a.failureIn r = some f → f.Twin veil g → f = g) : r = r' := by
  cases a with
  | fill | submitPassword => exact h
  | delete => exact Result.Like.eq h hf

/-- What comes of an act on the page of a user. -/
def answer (c : Setup) (p : UserScreen) (s : Session) : (a : Act) → a.Outcome
  | .fill password confirmation => p.fill password confirmation
  | .submitPassword => (p.submitPassword c s).1
  | .delete => (p.delete c s).1

variable {c : Setup} {s t : Session} (hst : s.Twin veil t)

include hst

theorem alike_load (id : String) :
    Alike veil (Result.Like veil) (load c id s) (load c id t) := by
  rw [load_eq_andThen, load_eq_andThen]
  refine (Collection.alike_use hst .banner (.get id : Collection.Use User)).andThen ?_
  intro user s t hst
  refine (Collection.alike_use hst .banner (.query [] : Collection.Use Record)).andThen ?_
  exact fun records _ _ twin => .mk (.ok _) twin

theorem alike_submitPassword (p : UserScreen) :
    Alike veil Eq (p.submitPassword c s) (p.submitPassword c t) := by
  have hx : Alike veil (Result.Like veil) (Collection.postPassword c p.user.id p.password s)
      (Collection.postPassword c p.user.id p.password t) := Session.alike_tell hst _
  obtain ⟨r, r', s', t', hs, ht, hr, twin⟩ := hx.exists_eq
  unfold submitPassword
  split
  · exact .mk rfl hst
  · rw [hs, ht]
    cases hr with
    | ok u => exact .mk rfl twin
    | error hf => exact .mk rfl twin

theorem alike_delete (p : UserScreen) :
    Alike veil (Result.Like veil) (p.delete c s) (p.delete c t) := by
  rw [delete_eq_andThen, delete_eq_andThen]
  refine (Collection.alike_use hst .banner (.remove p.user)).andThen fun _ _ _ twin => ?_
  refine (Session.alike_navigate twin .users).map (f := Except.ok) ?_
  exact fun _ _ hr => hr ▸ .ok _

/-- An act on the page of a user comes to the same in both sessions. -/
theorem alike_act (p : UserScreen) (a : Act) :
    Alike veil (fun r r' => a.Like veil r.1 r'.1 ∧ r.2 = r'.2)
      ((p.answer c s a, (p.act c s a).1), (p.act c s a).2)
      ((p.answer c t a, (p.act c t a).1), (p.act c t a).2) := by
  cases a with
  | fill password confirmation => exact .mk ⟨rfl, rfl⟩ hst
  | submitPassword =>
    refine (alike_submitPassword hst p).map (f := fun r => (r, some r)) ?_
    exact fun _ _ hr => ⟨hr, congrArg some hr⟩
  | delete => exact (alike_delete hst p).map (f := fun r => (r, none)) fun _ _ hr => ⟨hr, rfl⟩

end UserScreen

/-! ### The console -/

namespace Console

/-- Two consoles that differ in their sessions alone, which are twins. -/
inductive Twin (veil : Veil) : Console → Console → Prop where
  | mk {s t : Session} (session : s.Twin veil t) (info : Option ServerInfo) (requested : Bool) :
      Twin veil ⟨s, info, requested⟩ ⟨t, info, requested⟩

/-- Results that are related, of consoles that are twins. -/
inductive Alike (veil : Veil) (R : α → α → Prop) : α × Console → α × Console → Prop where
  | mk {a b : α} {k l : Console} (result : R a b) (twin : k.Twin veil l) :
      Alike veil R (a, k) (b, l)

theorem Alike.fst {R : α → α → Prop} {x y : α × Console} (h : Alike veil R x y) : R x.1 y.1 := by
  cases h
  assumption

theorem Alike.snd {R : α → α → Prop} {x y : α × Console} (h : Alike veil R x y) :
    x.2.Twin veil y.2 := by
  cases h
  assumption

variable {c : Setup} {k l : Console} (hkl : k.Twin veil l)

include hkl

theorem alike_login (email password : String) :
    Alike veil Eq (k.login c email password) (l.login c email password) := by
  cases hkl with
  | @mk s t session info requested =>
    obtain ⟨r, s', t', hs, ht, twin⟩ :=
      (Session.alike_login session (c := c) ⟨email, password⟩).exists_eq_same
    unfold login
    dsimp only
    rw [hs, ht]
    cases r with
    | error f => exact .mk rfl (.mk twin info requested)
    | ok token =>
      have hn := Session.alike_navigate twin (c := c) .records
      dsimp only
      rw [hn.fst]
      exact .mk rfl (.mk hn.snd info requested)

theorem alike_navigate (target : Route) :
    Alike veil Eq (k.navigate c target) (l.navigate c target) := by
  cases hkl with
  | mk session info requested =>
    have hn := Session.alike_navigate session (c := c) target
    unfold navigate
    dsimp only
    exact .mk hn.fst (.mk hn.snd info requested)

theorem alike_checkLive : Alike veil Eq (k.checkLive c) (l.checkLive c) := by
  cases hkl with
  | @mk s t session info requested =>
    have hx : Session.Alike veil (Result.Like veil) (fetchInfo c s) (fetchInfo c t) :=
      Session.alike_fetch session ServerInfo.isBlind_read _
    obtain ⟨r, r', s', t', hs, ht, hr, twin⟩ := hx.exists_eq
    unfold checkLive
    dsimp only
    rw [session.isLive]
    split
    · split
      · exact .mk rfl (.mk session info requested)
      · rw [hs, ht]
        cases hr with
        | ok info => exact .mk rfl (.mk twin (some info) true)
        | error hf => exact .mk rfl (.mk twin info true)
    · exact .mk rfl (.mk session info requested)

omit hkl in
theorem alike_enter {s t : Session} (hst : s.Twin veil t) (target : Route) :
    Session.Alike veil Eq (enter c target s) (enter c target t) :=
  (Session.alike_navigate hst target).mapSame fun r =>
    if r = target then Except.ok () else Except.error Failure.permission

/-- What is done on a page comes to the same on both consoles. -/
theorem alike_within (target : Route) {go : Session → Except Failure α × Session}
    (hgo : ∀ {s t : Session}, s.Twin veil t →
      Session.Alike veil (Result.Like veil) (go s) (go t)) :
    Alike veil (Result.Like veil) (k.within c target go) (l.within c target go) := by
  cases hkl with
  | @mk s t session info requested =>
    obtain ⟨r, s', t', hs, ht, twin⟩ := (alike_enter session (c := c) target).exists_eq_same
    unfold within
    dsimp only
    rw [hs, ht]
    cases r with
    | error f => exact .mk (.error (.same f)) (.mk twin info requested)
    | ok u =>
      have hg := hgo twin
      exact .mk hg.fst (.mk hg.snd info requested)

omit hkl in
theorem alike_onward {E : Type} (place : E → Route) {x y : Except Failure E × Session}
    (hx : Session.Alike veil (Result.Like veil) x y) :
    Session.Alike veil (Result.Like veil) (onward c place x) (onward c place y) := by
  rw [onward_eq_andThen, onward_eq_andThen]
  refine hx.andThen fun e _ _ twin => ?_
  refine (Session.alike_navigate twin (place e)).map (f := Except.ok) ?_
  exact fun _ _ hr => hr ▸ .ok _

theorem alike_records : Alike veil (Result.Like veil) (k.records c) (l.records c) :=
  alike_within hkl .records fun hst =>
    Collection.alike_use hst .banner (.query [] : Collection.Use Record)

theorem alike_users : Alike veil (Result.Like veil) (k.users c) (l.users c) :=
  alike_within hkl .users fun hst =>
    Collection.alike_use hst .banner (.query [] : Collection.Use User)

theorem alike_openRecord (id : String) :
    Alike veil (Result.Like veil) (k.openRecord c id) (l.openRecord c id) :=
  alike_within hkl (.record id) fun hst => RecordScreen.alike_load hst id

theorem alike_openUser (id : String) :
    Alike veil (Result.Like veil) (k.openUser c id) (l.openUser c id) :=
  alike_within hkl (.user id) fun hst => UserScreen.alike_load hst id

theorem alike_newRecord (draft : RecordDraft) :
    Alike veil (Result.Like veil) (k.newRecord c draft) (l.newRecord c draft) :=
  alike_within hkl .newRecord fun hst => alike_onward _ <|
    Collection.alike_use hst .banner (.create draft : Collection.Use Record)

theorem alike_newUser (draft : UserDraft) :
    Alike veil (Result.Like veil) (k.newUser c draft) (l.newUser c draft) :=
  alike_within hkl .newUser fun hst => alike_onward _ <|
    Collection.alike_use hst .banner (.create draft : Collection.Use User)

end Console

/-! ### The desk -/

/-- The results of an act. -/
def Act.Outcome : Act → Type
  | .login _ _ => Except String Route
  | .logout => Route
  | .check => Bool
  | .navigate _ => Route
  | .records => Except Failure (List Record)
  | .users => Except Failure (List User)
  | .openRecord _ => Except Failure RecordScreen
  | .openUser _ => Except Failure UserScreen
  | .newRecord _ => Except Failure Route
  | .newUser _ => Except Failure Route
  | .onRecord _ a => Option a.Outcome
  | .onUser _ a => Option a.Outcome
  | .useRecords _ u => u.Outcome
  | .useUsers _ u => u.Outcome
  | .changePassword _ _ _ => Except Failure Unit
  | .fail _ => Unit
  | .handle _ => Unit
  | .succeed _ => Unit
  | .dismiss => Unit
  | .wait _ => Unit

/-- Results of an act that are alike. -/
def Act.Like (veil : Veil) : (a : Act) → a.Outcome → a.Outcome → Prop
  | .records | .users | .openRecord _ | .openUser _ | .newRecord _ | .newUser _
  | .changePassword _ _ _ => Result.Like veil
  | .onRecord _ a => Option.Rel (a.Like veil)
  | .onUser _ a => Option.Rel (a.Like veil)
  | .useRecords _ u => u.Like veil
  | .useUsers _ u => u.Like veil
  | .login _ _ | .logout | .check | .navigate _ | .fail _ | .handle _ | .succeed _ | .dismiss
  | .wait _ => Eq

/-- The failure that came of an act. -/
def Act.failureIn : (a : Act) → a.Outcome → Option Failure
  | .records, r | .users, r | .openRecord _, r | .openUser _, r | .newRecord _, r | .newUser _, r
  | .changePassword _ _ _, r => Failure.of? r
  | .onRecord _ a, r => r.bind a.failureIn
  | .onUser _ a, r => r.bind a.failureIn
  | .useRecords _ u, r => u.failureIn r
  | .useUsers _ u, r => u.failureIn r
  | .login _ _, _ | .logout, _ | .check, _ | .navigate _, _ | .fail _, _ | .handle _, _
  | .succeed _, _ | .dismiss, _ | .wait _, _ => none

/-- Results of an act that are alike are one when the failures in them are. -/
theorem Act.Like.eq {a : Act} {r r' : a.Outcome} (h : a.Like veil r r')
    (hf : ∀ f g, a.failureIn r = some f → f.Twin veil g → f = g) : r = r' := by
  cases a with
  | records | users | openRecord | openUser | newRecord | newUser | changePassword =>
    exact Result.Like.eq h hf
  | onRecord | onUser =>
    cases h with
    | none => rfl
    | some h => exact congrArg some (h.eq hf)
  | useRecords | useUsers => exact Collection.Use.Like.eq h hf
  | login | logout | check | navigate | fail | handle | succeed | dismiss | wait => exact h

namespace Desk

/-- What comes of an act; nothing on a page that is not open. -/
def answer (c : Setup) (d : Desk) : (a : Act) → a.Outcome
  | .login email password => (d.console.login c email password).1
  | .logout => (d.console.logout c).1
  | .check => (d.console.checkLive c).1
  | .navigate target => (d.console.navigate c target).1
  | .records => (d.console.records c).1
  | .users => (d.console.users c).1
  | .openRecord id => (d.console.openRecord c id).1
  | .openUser id => (d.console.openUser c id).1
  | .newRecord draft => (d.console.newRecord c draft).1
  | .newUser draft => (d.console.newUser c draft).1
  | .onRecord n a => d.records[n]?.map fun p => p.answer c d.session a
  | .onUser n a => d.users[n]?.map fun p => p.answer c d.session a
  | .useRecords h u => Collection.answer c h d.session u
  | .useUsers h u => Collection.answer c h d.session u
  | .changePassword h id password => (Collection.changePassword c h id password d.session).1
  | .fail _ | .handle _ | .succeed _ | .dismiss | .wait _ => ()

/-- Two desks that differ in their sessions alone, which are twins. -/
inductive Twin (veil : Veil) : Desk → Desk → Prop where
  | mk {k l : Console} (console : k.Twin veil l) (records : List RecordScreen)
      (users : List UserScreen) : Twin veil ⟨k, records, users⟩ ⟨l, records, users⟩

variable {c : Setup} {d e : Desk} (h : d.Twin veil e)

include h

theorem Twin.session : d.session.Twin veil e.session := by
  obtain ⟨⟨session, _, _⟩, _, _⟩ := h
  exact session

theorem Twin.withSession {s t : Session} (hst : s.Twin veil t) :
    (d.withSession s).Twin veil (e.withSession t) := by
  obtain ⟨⟨-, info, requested⟩, records, users⟩ := h
  exact .mk (.mk hst info requested) records users

theorem Twin.console : d.console.Twin veil e.console := by
  obtain ⟨console, _, _⟩ := h
  exact console

theorem Twin.withConsole {k l : Console} (hkl : k.Twin veil l) :
    Twin veil { d with console := k } { e with console := l } := by
  obtain ⟨-, records, users⟩ := h
  exact .mk hkl records users

/-- What comes of an act of the console, which leaves the pages as they are. -/
theorem Twin.byConsole {R : α → α → Prop} {x y : α × Console} (hx : Console.Alike veil R x y) :
    R x.1 y.1 ∧ Twin veil { d with console := x.2 } { e with console := y.2 } :=
  ⟨hx.fst, h.withConsole hx.snd⟩

/-- What comes of an act on the session, which leaves the pages as they are. -/
theorem Twin.bySession {R : α → α → Prop} {x y : α × Session} (hx : Alike veil R x y) :
    R x.1 y.1 ∧ (d.withSession x.2).Twin veil (e.withSession y.2) :=
  ⟨hx.fst, h.withSession hx.snd⟩

theorem Twin.openRecord (id : String) :
    Result.Like veil (d.answer c (.openRecord id)) (e.answer c (.openRecord id)) ∧
      (d.act c (.openRecord id)).Twin veil (e.act c (.openRecord id)) := by
  obtain ⟨console, records, users⟩ := h
  have hx := Console.alike_openRecord console (c := c) id
  unfold act
  dsimp only
  rw [hx.fst.toOption]
  exact ⟨hx.fst, .mk hx.snd _ users⟩

theorem Twin.openUser (id : String) :
    Result.Like veil (d.answer c (.openUser id)) (e.answer c (.openUser id)) ∧
      (d.act c (.openUser id)).Twin veil (e.act c (.openUser id)) := by
  obtain ⟨console, records, users⟩ := h
  have hx := Console.alike_openUser console (c := c) id
  unfold act
  dsimp only
  rw [hx.fst.toOption]
  exact ⟨hx.fst, .mk hx.snd records _⟩

theorem Twin.onRecord (n : Nat) (a : RecordScreen.Act) :
    Option.Rel (a.Like veil) (d.answer c (.onRecord n a)) (e.answer c (.onRecord n a)) ∧
      (d.act c (.onRecord n a)).Twin veil (e.act c (.onRecord n a)) := by
  obtain ⟨⟨session, info, requested⟩, records, users⟩ := h
  unfold answer act
  dsimp only
  cases records[n]? with
  | none => exact ⟨.none, .mk (.mk session info requested) records users⟩
  | some p =>
    have hx := RecordScreen.alike_act session (c := c) p a
    obtain ⟨ha, hp⟩ := hx.fst
    dsimp only [Desk.session, Option.map_some] at hp ⊢
    rw [hp]
    exact ⟨.some ha, .mk (.mk hx.snd info requested) _ users⟩

theorem Twin.onUser (n : Nat) (a : UserScreen.Act) :
    Option.Rel (a.Like veil) (d.answer c (.onUser n a)) (e.answer c (.onUser n a)) ∧
      (d.act c (.onUser n a)).Twin veil (e.act c (.onUser n a)) := by
  obtain ⟨⟨session, info, requested⟩, records, users⟩ := h
  unfold answer act
  dsimp only
  cases users[n]? with
  | none => exact ⟨.none, .mk (.mk session info requested) records users⟩
  | some p =>
    have hx := UserScreen.alike_act session (c := c) p a
    obtain ⟨ha, hp⟩ := hx.fst
    dsimp only [Desk.session, Option.map_some] at hp ⊢
    rw [hp]
    exact ⟨.some ha, .mk (.mk hx.snd info requested) records _⟩

/-- **An act comes to the same on both desks.** -/
theorem Twin.act (a : Act) :
    a.Like veil (d.answer c a) (e.answer c a) ∧ (d.act c a).Twin veil (e.act c a) := by
  cases a with
  | login email password => exact h.byConsole (Console.alike_login h.console email password)
  | logout => exact h.byConsole (Console.alike_navigate h.console .logout)
  | check => exact h.byConsole (Console.alike_checkLive h.console)
  | navigate target => exact h.byConsole (Console.alike_navigate h.console target)
  | records => exact h.byConsole (Console.alike_records h.console)
  | users => exact h.byConsole (Console.alike_users h.console)
  | openRecord id => exact h.openRecord id
  | openUser id => exact h.openUser id
  | newRecord draft => exact h.byConsole (Console.alike_newRecord h.console draft)
  | newUser draft => exact h.byConsole (Console.alike_newUser h.console draft)
  | onRecord n a => exact h.onRecord n a
  | onUser n a => exact h.onUser n a
  | useRecords who u => exact h.bySession (Collection.alike_use h.session who u)
  | useUsers who u => exact h.bySession (Collection.alike_use h.session who u)
  | changePassword who id password =>
    exact h.bySession (Collection.alike_report who (Session.alike_tell h.session _))
  | fail p => exact ⟨rfl, h.withSession (h.session.fail p)⟩
  | handle f => exact ⟨rfl, h.withSession (h.session.handle .banner (.same f))⟩
  | succeed text => exact ⟨rfl, h.withSession (h.session.succeed text)⟩
  | dismiss => exact ⟨rfl, h.withSession h.session.dismiss⟩
  | wait ms => exact ⟨rfl, h.withSession (h.session.wait ms)⟩

end Desk

/-! ### What is done at a desk -/

namespace Desk

/-- What can be done at a desk: an act, or something with the navigator or the guard of the
session alone. -/
inductive Turn where
  | act (a : Act)
  /-- The user is sent to a place without asking. -/
  | redirect (target : Route)
  | login (credentials : Credentials)
  | logout
  /-- The status of an answer is looked at. -/
  | escalate (status : Nat)

/-- The results of a turn. -/
def Turn.Outcome : Turn → Type
  | act a => a.Outcome
  | redirect _ => Unit
  | login _ => Except Failure Token
  | logout => Unit
  | escalate _ => Bool

/-- Results of a turn that are alike. -/
def Turn.Like (veil : Veil) : (x : Turn) → x.Outcome → x.Outcome → Prop
  | act a => a.Like veil
  | redirect _ | login _ | logout | escalate _ => Eq

/-- The failure of a call that came of a turn. -/
def Turn.failureIn : (x : Turn) → x.Outcome → Option Failure
  | act a, r => a.failureIn r
  | redirect _, _ | login _, _ | logout, _ | escalate _, _ => none

theorem Turn.Like.eq {x : Turn} {r r' : x.Outcome} (h : x.Like veil r r')
    (hf : ∀ f g, x.failureIn r = some f → f.Twin veil g → f = g) : r = r' := by
  cases x with
  | act a => exact Act.Like.eq h hf
  | redirect | login | logout | escalate => exact h

/-- What comes of a turn. -/
def outcome (c : Setup) (d : Desk) : (x : Turn) → x.Outcome
  | .act a => d.answer c a
  | .redirect _ => ()
  | .login credentials => (d.session.login c credentials).1
  | .logout => ()
  | .escalate status => (d.session.escalate status).1

/-- The desk after a turn. -/
def turned (c : Setup) (d : Desk) : Turn → Desk
  | .act a => d.act c a
  | .redirect target => d.withSession (d.session.redirect target)
  | .login credentials => d.withSession (d.session.login c credentials).2
  | .logout => d.withSession d.session.logout
  | .escalate status => d.withSession (d.session.escalate status).2

/-- The desk after turns, in their order, each with the date by which tokens expire then. -/
def turns (c : Setup) (d : Desk) (xs : List (Int64 × Turn)) : Desk :=
  xs.foldl (fun d x => d.turned { c with today := x.1 } x.2) d

/-- What can be seen of a desk: the token of the session and whether it is live, where the
user is and was sent, what is shown, what arrived at the server, and the pages. -/
structure Sight where
  current : Option Token
  isLive : Bool
  route : Route
  redirects : List Route
  notices : Notices
  arrivals : List Arrival
  info : Option ServerInfo
  records : List RecordScreen
  users : List UserScreen
  collected : List Failure

def sight (c : Setup) (d : Desk) : Sight where
  current := d.session.current c
  isLive := d.session.isLive c
  route := d.session.route
  redirects := d.session.redirects
  notices := d.session.notices
  arrivals := d.session.server.arrivals
  info := d.console.info
  records := d.records
  users := d.users
  collected := d.session.collected

/-- The same is seen, but that collected failures may be twins. -/
structure Sight.Like (veil : Veil) (a b : Sight) : Prop where
  shown : { a with collected := [] } = { b with collected := [] }
  collected : List.Forall₂ (Failure.Twin veil) a.collected b.collected

/-- What is seen is the same when the collected failures are. -/
theorem Sight.Like.eq {a b : Sight} (h : a.Like veil b)
    (hf : ∀ f ∈ a.collected, ∀ g, f.Twin veil g → f = g) : a = b := by
  obtain ⟨shown, collected⟩ := h
  have hc : List.Forall₂ Eq a.collected b.collected :=
    ((List.forall₂_and_left _ _).mpr ⟨hf, collected⟩).imp fun f g hfg => hfg.1 g hfg.2
  rw [List.forall₂_eq_eq_eq] at hc
  cases a
  cases b
  cases hc
  injection shown
  congr

variable {c : Setup} {d e : Desk}

theorem Twin.turn (h : d.Twin veil e) (x : Turn) :
    x.Like veil (d.outcome c x) (e.outcome c x) ∧ (d.turned c x).Twin veil (e.turned c x) := by
  cases x with
  | act a => exact h.act a
  | redirect target => exact ⟨rfl, h.withSession (h.session.redirect target)⟩
  | login credentials => exact h.bySession (Session.alike_login h.session credentials)
  | logout => exact ⟨rfl, h.withSession h.session.logout⟩
  | escalate status => exact h.bySession (Session.alike_escalate h.session status)

/-- Twin desks are twins after the same turns. -/
theorem Twin.turns : ∀ {d e : Desk} (_ : d.Twin veil e) (xs : List (Int64 × Turn)),
    (d.turns c xs).Twin veil (e.turns c xs)
  | _, _, h, [] => h
  | _, _, h, x :: xs => (h.turn x.2).2.turns xs

theorem Twin.sight (h : d.Twin veil e) : (d.sight c).Like veil (e.sight c) := by
  have hc := h.session.current (c := c)
  have hl := h.session.isLive (c := c)
  have ha := h.session.arrivals
  refine ⟨?_, h.session.collected⟩
  unfold Desk.sight
  rw [hc, hl, ha]
  obtain ⟨⟨⟨slot, server⟩, info, requested⟩, records, users⟩ := h
  rfl

/-- Desks that begin with slots and at servers that are twins. -/
theorem Twin.start {slot g : Slot} {v w : Server} (hslot : slot.Twin g) (hserver : v.Twin veil w) :
    (Desk.start slot v).Twin veil (Desk.start g w) :=
  .mk (.mk (.start hslot hserver) none false) [] []

end Desk

namespace FileSlot

/-- A slot, as it was opened, that can be written and whose file holds a text, or is not
there. -/
structure Holds (f : FileSlot) (text : Option String) : Prop where
  opened : f.cleared = false
  writable : f.IsWritable
  file : (f.disk.read f.path).toOption = text.map Utf8.bytes

theorem Holds.twin {f : FileSlot} {text : Option String} (h : f.Holds text) :
    (Slot.memory text).Twin (.file f) := by
  obtain ⟨opened, writable, file⟩ := h
  refine .mk ?_ writable
  unfold load
  rw [opened]
  cases hr : f.disk.read f.path with
  | error e =>
    rw [hr] at file
    cases text with
    | none => rfl
    | some s => cases file
  | ok bs =>
    rw [hr] at file
    cases text with
    | none => cases file
    | some s =>
      cases file
      exact tokenOf_utf8 s

end FileSlot

namespace Desk

/-- **Which slot a console has cannot be seen.** However a desk begins, with a text in memory
or in a file that can be written, or with none: at any time and on any date the same is seen
of it, and whatever is done next comes to the same. -/
theorem interchangeable {f : FileSlot} {text : Option String} (h : f.Holds text) (c : Setup)
    (server : Server) (past : List (Int64 × Turn)) (today : Int64) (next : Turn) :
    let d := (start (.memory text) server).turns c past
    let e := (start (.file f) server).turns c past
    d.sight { c with today } = e.sight { c with today } ∧
      d.outcome { c with today } next = e.outcome { c with today } next := by
  have hd : (start (.memory text) server).Twin .clear (start (.file f) server) :=
    .start h.twin (.refl server)
  have he := hd.turns (c := c) past
  refine ⟨he.sight.eq fun _ _ _ hf => hf.eq, ?_⟩
  exact (he.turn next).1.eq fun _ _ _ hf => hf.eq

/-- A token with blank characters around it, in a folder that is there. -/
theorem interchangeable_padded :
    let text := some " aGVhZA.eyJpZCI6InUtMyJ9.c2ln\n"
    let f : FileSlot := ⟨"slot/token", false, ⟨[(⟨false, ["slot"]⟩, .folder),
      (⟨false, ["slot", "token"]⟩, .file (Utf8.bytes " aGVhZA.eyJpZCI6InUtMyJ9.c2ln\n"))]⟩⟩
    let c : Setup := ⟨"http://127.0.0.1:4443/", none, none, 1893456000⟩
    let server : Server := ⟨true, [], []⟩
    let past : List (Int64 × Turn) :=
      [(1893456000, .act .records), (1893456060, .act .logout)]
    let d := (start (.memory text) server).turns c past
    let e := (start (.file f) server).turns c past
    f.Holds text ∧ d.sight { c with today := 0 } = e.sight { c with today := 0 } ∧
      d.outcome { c with today := 0 } (.act .check) =
        e.outcome { c with today := 0 } (.act .check) := by
  intro text f c server past
  have h : f.Holds text := by
    refine ⟨rfl, ?_, ?_⟩
    · decide +kernel
    · decide +kernel
  exact ⟨h, interchangeable h c server past 0 (.act .check)⟩

end Desk
end ProxyConsole
