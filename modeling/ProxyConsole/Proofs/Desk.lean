/-
# Runs of a console with its pages

A front end drives a console: it logs in and out, goes to places, opens pages
and works on them, uses collections, and tells the user of what came of it. A
page stays open until what it shows is deleted, whatever becomes of the session;
any number of pages may be open. Everything that a run does to the session is
listed in its trace.

Key definitions: `Desk`, `Act`, `Desk.act`, `Desk.run`, `Desk.deeds`, `Desk.trace`.
Key theorems: `Desk.session_act`, `Desk.session_run`.
-/
import ProxyConsole.Proofs.Deed

namespace ProxyConsole

open Collection (Use use_eq_after)

/-! ### Pages -/

namespace RecordScreen

/-- What is done to open the page of a record. -/
def loadDeeds (c : Setup) (id : String) (s : Session) : List Deed :=
  let r := Collection.get Record c .banner id s
  Deed.onSuccess r.1 (fun _ => (Use.query [] : Use User).deeds c .banner r.2) ++
    (Use.get id : Use Record).deeds c .banner s

theorem load_eq_after (c : Setup) (id : String) (s : Session) :
    (load c id s).2 = s.after c (loadDeeds c id s) := by
  have hg : (Collection.get Record c .banner id s).2 = _ := use_eq_after c .banner s (.get id)
  rw [load_eq_andThen]
  refine Session.andThen_eq_after (fun _ t => (Use.query [] : Use User).deeds c .banner t) hg ?_
  intro record t
  rw [Session.andThen_snd]
  exact use_eq_after c .banner t (.query [])

/-- What can be done on the page of a record. -/
inductive Act where
  | setBlacklist (blacklist : Bool)
  | saveOwner (email : String)
  | clearClients
  | delete

/-- The page after an act, none once the record was sent to be deleted, and the
session. -/
def act (c : Setup) (p : RecordScreen) (s : Session) : Act → Option RecordScreen × Session
  | .setBlacklist blacklist =>
    let r := p.setBlacklist c blacklist s
    (some r.2.1, r.2.2)
  | .saveOwner email =>
    let r := p.saveOwner c email s
    (some r.2.1, r.2.2)
  | .clearClients =>
    let r := p.clearClients c s
    (some r.2.1, r.2.2)
  | .delete => (none, (p.delete c s).2)

/-- What an act does to the session. -/
def deeds (c : Setup) (p : RecordScreen) (s : Session) : Act → List Deed
  | .setBlacklist blacklist =>
    (Use.updateWith (fun r : Record => { r with blacklist }) p.record).deeds c .banner s
  | .saveOwner email =>
    (Use.updateWith (fun r : Record => (r.retarget email p.users).2) p.record).deeds c .banner s
  | .clearClients =>
    (Use.updateWith (fun r : Record => { r with clients := [] }) p.record).deeds c .banner s
  | .delete =>
    Deed.onSuccess (Collection.remove c .banner p.record s).1 (fun _ => [.visit .records]) ++
      (Use.remove p.record).deeds c .banner s

theorem delete_eq_after (c : Setup) (p : RecordScreen) (s : Session) :
    (p.delete c s).2 = s.after c (p.deeds c s .delete) := by
  have hr : (Collection.remove c .banner p.record s).2 = _ :=
    use_eq_after c .banner s (.remove p.record)
  rw [delete_eq_andThen]
  exact Session.andThen_eq_after (fun _ _ => [.visit .records]) hr fun _ _ => rfl

theorem act_eq_after (c : Setup) (p : RecordScreen) (s : Session) (a : Act) :
    (p.act c s a).2 = s.after c (p.deeds c s a) := by
  cases a with
  | setBlacklist blacklist => exact use_eq_after c .banner s (.updateWith _ p.record)
  | saveOwner email => exact use_eq_after c .banner s (.updateWith _ p.record)
  | clearClients => exact use_eq_after c .banner s (.updateWith _ p.record)
  | delete => exact delete_eq_after c p s

end RecordScreen

namespace UserScreen

/-- What is done to open the page of a user. -/
def loadDeeds (c : Setup) (id : String) (s : Session) : List Deed :=
  let r := Collection.get User c .banner id s
  Deed.onSuccess r.1 (fun _ => (Use.query [] : Use Record).deeds c .banner r.2) ++
    (Use.get id : Use User).deeds c .banner s

theorem load_eq_after (c : Setup) (id : String) (s : Session) :
    (load c id s).2 = s.after c (loadDeeds c id s) := by
  have hg : (Collection.get User c .banner id s).2 = _ := use_eq_after c .banner s (.get id)
  rw [load_eq_andThen]
  refine Session.andThen_eq_after (fun _ t => (Use.query [] : Use Record).deeds c .banner t) hg ?_
  intro user t
  rw [Session.andThen_snd]
  exact use_eq_after c .banner t (.query [])

/-- What can be done on the page of a user. -/
inductive Act where
  | fill (password confirmation : String)
  | submitPassword
  | delete

/-- The page after an act, none once the user was sent to be deleted, and the
session. -/
def act (c : Setup) (p : UserScreen) (s : Session) : Act → Option UserScreen × Session
  | .fill password confirmation => (some (p.fill password confirmation), s)
  | .submitPassword =>
    let r := p.submitPassword c s
    (some r.1, r.2)
  | .delete => (none, (p.delete c s).2)

/-- What an act does to the session. -/
def deeds (c : Setup) (p : UserScreen) (s : Session) : Act → List Deed
  | .fill _ _ => []
  | .submitPassword =>
    if p.password ≠ p.confirmation then []
    else [.call (Collection.passwordAsk p.user.id p.password)]
  | .delete =>
    Deed.onSuccess (Collection.remove c .banner p.user s).1 (fun _ => [.visit .users]) ++
      (Use.remove p.user).deeds c .banner s

theorem submitPassword_eq_after (c : Setup) (p : UserScreen) (s : Session) :
    (p.submitPassword c s).2 = s.after c (p.deeds c s .submitPassword) := by
  have hp : s.after c [.call (Collection.passwordAsk p.user.id p.password)] =
    (Collection.postPassword c p.user.id p.password s).2 := rfl
  unfold submitPassword deeds
  by_cases hm : p.password ≠ p.confirmation
  · rw [if_pos hm, if_pos hm]
    rfl
  · rw [if_neg hm, if_neg hm, hp]
    generalize Collection.postPassword c p.user.id p.password s = r
    obtain ⟨f | _, t⟩ := r
    · rfl
    · rfl

theorem delete_eq_after (c : Setup) (p : UserScreen) (s : Session) :
    (p.delete c s).2 = s.after c (p.deeds c s .delete) := by
  have hr : (Collection.remove c .banner p.user s).2 = _ :=
    use_eq_after c .banner s (.remove p.user)
  rw [delete_eq_andThen]
  exact Session.andThen_eq_after (fun _ _ => [.visit .users]) hr fun _ _ => rfl

theorem act_eq_after (c : Setup) (p : UserScreen) (s : Session) (a : Act) :
    (p.act c s a).2 = s.after c (p.deeds c s a) := by
  cases a with
  | fill password confirmation => rfl
  | submitPassword => exact submitPassword_eq_after c p s
  | delete => exact delete_eq_after c p s

end UserScreen

/-! ### The console -/

namespace Console

variable (c : Setup)

/-- What is done to log in. -/
def loginDeeds (email password : String) (s : Session) : List Deed :=
  Deed.onSuccess (s.login c ⟨email, password⟩).1 (fun _ => [.visit .records]) ++
    [.login ⟨email, password⟩]

/-- What a check does: the first that finds the session live makes a call. -/
def checkDeeds (k : Console) : List Deed :=
  if k.session.isLive c && !k.infoRequested then [.call (.get infoPath [])] else []

/-- What is done on a page, once it was entered. -/
def withinDeeds (target : Route) (go : Session → List Deed) (s : Session) : List Deed :=
  Deed.onSuccess (enter c target s).1 (fun _ => go (enter c target s).2) ++ [.visit target]

/-- What is done to create a thing and go to its place. -/
def onwardDeeds [Entity E] (place : E → Route) (draft : Entity.Draft E) (s : Session) :
    List Deed :=
  Deed.onSuccess (Collection.create E c .banner draft s).1 (fun e => [.visit (place e)]) ++
    (Use.create draft : Use E).deeds c .banner s

variable {c}

theorem login_eq_after (email password : String) (k : Console) :
    (k.login c email password).2.session =
      k.session.after c (loginDeeds c email password k.session) := by
  have hl : k.session.after c [.login ⟨email, password⟩] =
    (k.session.login c ⟨email, password⟩).2 := rfl
  unfold login loginDeeds
  rw [Session.after_append, hl]
  generalize k.session.login c ⟨email, password⟩ = r
  obtain ⟨f | t, s⟩ := r
  · rfl
  · rfl

theorem checkLive_eq_after (k : Console) :
    (k.checkLive c).2.session = k.session.after c (checkDeeds c k) := by
  have hf : k.session.after c [.call (.get infoPath [])] = (fetchInfo c k.session).2 := rfl
  unfold checkLive checkDeeds
  cases k.session.isLive c with
  | false => rfl
  | true =>
    cases k.infoRequested with
    | true => rfl
    | false =>
      simp only [↓reduceIte, Bool.false_eq_true, Bool.not_false, Bool.and_self, hf]
      generalize fetchInfo c k.session = r
      obtain ⟨f | info, s⟩ := r
      · rfl
      · rfl

theorem within_eq_after {target : Route} {go : Session → Except Failure α × Session}
    {later : Session → List Deed} (hgo : ∀ s : Session, (go s).2 = s.after c (later s))
    (k : Console) :
    (k.within c target go).2.session =
      k.session.after c (withinDeeds c target later k.session) := by
  have hw := congrArg Prod.snd (within_eq_andThen c target go k)
  have hv : (enter c target k.session).2 = k.session.after c [.visit target] := rfl
  exact hw.trans (Session.andThen_eq_after (fun _ t => later t) hv fun _ t => hgo t)

theorem onward_eq_after [Entity E] (place : E → Route) (draft : Entity.Draft E) (s : Session) :
    (onward c place (Collection.create E c .banner draft s)).2 =
      s.after c (onwardDeeds c place draft s) := by
  have hd : (Collection.create E c .banner draft s).2 = _ :=
    use_eq_after c .banner s (.create draft)
  rw [onward_eq_andThen]
  exact Session.andThen_eq_after (fun e _ => [.visit (place e)]) hd fun _ _ => rfl

end Console

/-! ### The desk -/

/-- A console with the pages that are open. -/
structure Desk where
  console : Console
  records : List RecordScreen
  users : List UserScreen

/-- What a front end does; pages are counted in the order in which they were opened. -/
inductive Act where
  | login (email password : String)
  | logout
  | check
  | navigate (target : Route)
  | records
  | users
  | openRecord (id : String)
  | openUser (id : String)
  | newRecord (draft : RecordDraft)
  | newUser (draft : UserDraft)
  | onRecord (n : Nat) (a : RecordScreen.Act)
  | onUser (n : Nat) (a : UserScreen.Act)
  | useRecords (h : Handler) (u : Use Record)
  | useUsers (h : Handler) (u : Use User)
  | changePassword (h : Handler) (id password : String)
  | fail (p : Payload)
  | handle (f : Failure)
  | succeed (text : String)
  | dismiss
  | wait (ms : Nat)

namespace Desk

/-- A desk without pages, on which a session begins. -/
def start (slot : Slot) (server : Server) : Desk :=
  ⟨Console.start (Session.start slot server), [], []⟩

/-- The session of the console. -/
def session (d : Desk) : Session := d.console.session

def withSession (d : Desk) (s : Session) : Desk :=
  { d with console := { d.console with session := s } }

/-- Pages with one of them in its next form, or without it. -/
def turn (pages : List α) (n : Nat) : Option α → List α
  | some p => pages.set n p
  | none => pages.eraseIdx n

/-- The desk after an act; on a page that is not open nothing is done. -/
def act (c : Setup) (d : Desk) : Act → Desk
  | .login email password => { d with console := (d.console.login c email password).2 }
  | .logout => { d with console := (d.console.logout c).2 }
  | .check => { d with console := (d.console.checkLive c).2 }
  | .navigate target => { d with console := (d.console.navigate c target).2 }
  | .records => { d with console := (d.console.records c).2 }
  | .users => { d with console := (d.console.users c).2 }
  | .openRecord id =>
    let r := d.console.openRecord c id
    { d with console := r.2, records := d.records ++ r.1.toOption.toList }
  | .openUser id =>
    let r := d.console.openUser c id
    { d with console := r.2, users := d.users ++ r.1.toOption.toList }
  | .newRecord draft => { d with console := (d.console.newRecord c draft).2 }
  | .newUser draft => { d with console := (d.console.newUser c draft).2 }
  | .onRecord n a =>
    match d.records[n]? with
    | some p =>
      let r := p.act c d.session a
      { d.withSession r.2 with records := turn d.records n r.1 }
    | none => d
  | .onUser n a =>
    match d.users[n]? with
    | some p =>
      let r := p.act c d.session a
      { d.withSession r.2 with users := turn d.users n r.1 }
    | none => d
  | .useRecords h u => d.withSession (Collection.use c h d.session u)
  | .useUsers h u => d.withSession (Collection.use c h d.session u)
  | .changePassword h id password =>
    d.withSession (Collection.changePassword c h id password d.session).2
  | .fail p => d.withSession (d.session.fail p)
  | .handle f => d.withSession (Handler.banner.handle f d.session)
  | .succeed text => d.withSession (d.session.succeed c text)
  | .dismiss => d.withSession d.session.dismiss
  | .wait ms => d.withSession (d.session.wait ms)

/-- The desk after acts, in their order. -/
def run (c : Setup) (d : Desk) (acts : List Act) : Desk :=
  acts.foldl (act c) d

/-- What an act does to the session. -/
def deeds (c : Setup) (d : Desk) : Act → List Deed
  | .login email password => Console.loginDeeds c email password d.session
  | .logout => [.visit .logout]
  | .check => Console.checkDeeds c d.console
  | .navigate target => [.visit target]
  | .records =>
    Console.withinDeeds c .records ((Use.query [] : Use Record).deeds c .banner) d.session
  | .users => Console.withinDeeds c .users ((Use.query [] : Use User).deeds c .banner) d.session
  | .openRecord id => Console.withinDeeds c (.record id) (RecordScreen.loadDeeds c id) d.session
  | .openUser id => Console.withinDeeds c (.user id) (UserScreen.loadDeeds c id) d.session
  | .newRecord draft =>
    Console.withinDeeds c .newRecord
      (Console.onwardDeeds c (fun r : Record => .record r.id) draft) d.session
  | .newUser draft =>
    Console.withinDeeds c .newUser
      (Console.onwardDeeds c (fun _ : User => .users) draft) d.session
  | .onRecord n a => (d.records[n]?.map fun p => p.deeds c d.session a).getD []
  | .onUser n a => (d.users[n]?.map fun p => p.deeds c d.session a).getD []
  | .useRecords h u => u.deeds c h d.session
  | .useUsers h u => u.deeds c h d.session
  | .changePassword h id password => Collection.passwordDeeds c h id password d.session
  | .fail p => [.fail p]
  | .handle f => Handler.banner.deeds f
  | .succeed text => [.succeed text]
  | .dismiss => [.dismiss]
  | .wait ms => [.wait ms]

/-- What a run does to the session. -/
def trace (c : Setup) (d : Desk) : List Act → List Deed
  | [] => []
  | a :: acts => (d.act c a).trace c acts ++ d.deeds c a

/-- What an act does to the session is the row of its deeds. -/
theorem session_act (c : Setup) (d : Desk) (a : Act) :
    (d.act c a).session = d.session.after c (d.deeds c a) := by
  cases a with
  | login email password => exact d.console.login_eq_after email password
  | logout => rfl
  | check => exact d.console.checkLive_eq_after
  | navigate target => rfl
  | records => exact d.console.within_eq_after fun s => use_eq_after c .banner s (.query [])
  | users => exact d.console.within_eq_after fun s => use_eq_after c .banner s (.query [])
  | openRecord id => exact d.console.within_eq_after (RecordScreen.load_eq_after c id)
  | openUser id => exact d.console.within_eq_after (UserScreen.load_eq_after c id)
  | newRecord draft =>
    exact d.console.within_eq_after (Console.onward_eq_after (E := Record) _ draft)
  | newUser draft =>
    exact d.console.within_eq_after (Console.onward_eq_after (E := User) _ draft)
  | onRecord n a =>
    simp only [act, deeds]
    cases d.records[n]? with
    | some p => exact p.act_eq_after c d.session a
    | none => rfl
  | onUser n a =>
    simp only [act, deeds]
    cases d.users[n]? with
    | some p => exact p.act_eq_after c d.session a
    | none => rfl
  | useRecords h u => exact use_eq_after c h d.session u
  | useUsers h u => exact use_eq_after c h d.session u
  | changePassword h id password =>
    exact Collection.changePassword_eq_after c h id password d.session
  | fail p => rfl
  | handle f => exact Handler.banner.handle_eq_after c f d.session
  | succeed text => rfl
  | dismiss => rfl
  | wait ms => rfl

/-- What a run does to the session is the row of the deeds of its trace. -/
theorem session_run (c : Setup) : ∀ (acts : List Act) (d : Desk),
    (d.run c acts).session = d.session.after c (d.trace c acts)
  | [], _ => rfl
  | a :: acts, d => by
    rw [trace, Session.after_append, ← session_act]
    exact session_run c acts (d.act c a)

end Desk
end ProxyConsole
