/-
# Where the user ends

Under a plain server the place where the user is after an operation can be told
from what came of the operation. A denial leads to the login page, and so does a
page that is entered without a live session. Otherwise whoever opens a page stays
on it, whether or not what it shows could be fetched; a page is left only when
something was created or deleted on it, and then for the place that the operation
returns; and everything else leaves the user in place.

Key definitions: `Session.Remains`, `Session.Stays`, `Session.Lands`,
`Console.LandsOn`, `Console.EndsUp`.
Key theorems: `Session.remains_ask`, `Session.Remains.andThen`,
`Session.Remains.visit`, `Console.landsOn_within`, `Console.ends_up`.
-/
import ProxyConsole.Proofs.Bearer
import ProxyConsole.Proofs.Check
import ProxyConsole.Proofs.Login
import ProxyConsole.Proofs.Refusal
import ProxyConsole.Proofs.Standing

namespace ProxyConsole

open Collection (Use)

namespace Session

/-- An operation that moves the user only when it is denied. -/
structure Remains (s : Session) (r : Except Failure α × Session) : Prop where
  escalates : Escalates s r
  stays : s.denials r.2 = 0 → r.2.route = s.route

/-- The user stays, or was denied and is at the login page. -/
structure Stays (s t : Session) : Prop where
  denied : s.denials t ≠ 0 → t.route = .login
  spared : s.denials t = 0 → t.route = s.route

/-- Where an operation leaves the user: at the login page when it was denied, elsewhere by
what it returns, and in place when it fails. -/
structure Lands (s : Session) (r : Except Failure α × Session) (reached : α → Route)
    (place : Route) : Prop where
  denied : s.denials r.2 ≠ 0 → r.2.route = .login
  ok : ∀ a, r.1 = .ok a → r.2.route = reached a
  failed : ∀ f, r.1 = .error f → s.denials r.2 = 0 → r.2.route = place

theorem Escalates.route_of_denials {s : Session} {r : Except Failure α × Session}
    (h : Escalates s r) (hd : s.denials r.2 ≠ 0) : r.2.route = .login := by
  have h₁ : s.denials r.2 = 1 := by
    have := h.once
    omega
  exact (h.denied h₁).2.1

namespace Remains

variable {s t : Session} {r : Except Failure α × Session}

theorem stay (h : Remains s r) : Stays s r.2 where
  denied := h.escalates.route_of_denials
  spared := h.stays

theorem lands (h : Remains s r) {place : Route} (hs : s.route = place) :
    Lands s r (fun _ => place) place where
  denied := h.escalates.route_of_denials
  ok a ha := by
    have h₀ : s.denials r.2 = 0 := h.escalates.denials_of_ok ha
    rw [h.stays h₀, hs]
  failed f _ h₀ := by rw [h.stays h₀, hs]

theorem ok (s : Session) (a : α) : Remains s (.ok a, s) :=
  ⟨.ok s a, fun _ => rfl⟩

theorem bind (h : Remains s r) {g : α → Except Failure β}
    (hg : ∀ a f, r.1 = .ok a → g a = .error f → f.payload.isUnauthorized = false) :
    Remains s (r.1.bind g, r.2) :=
  ⟨h.escalates.bind hg, h.stays⟩

theorem map (h : Remains s r) (g : α → β) : Remains s (r.1.map g, r.2) :=
  ⟨h.escalates.map g, h.stays⟩

/-- To be told of a failure moves nobody who was not denied. -/
theorem report (h : Remains s r) : Remains s (Collection.report .banner r) := by
  refine ⟨h.escalates.report, ?_⟩
  obtain ⟨f | a, t⟩ := r
  · rw [Collection.report_error]
    cases hp : f.isPermission with
    | true =>
      simp only [Handler.handle, hp, ↓reduceIte]
      exact h.stays
    | false =>
      have h₀ : s.denials t = 0 := h.escalates.denials_of_error rfl hp
      have hf : f.payload.isUnauthorized = false := h.escalates.spared h₀ f rfl
      have ht : t.route = s.route := h.stays h₀
      intro _
      simp only [Handler.handle, fail, hp, hf, Bool.false_eq_true, ↓reduceIte]
      exact ht
  · exact h.stays

/-- A row of operations moves the user only when one of them is denied. -/
theorem andThen (h : Remains s r) {go : α → Session → Except Failure β × Session}
    (hgo : ∀ a t, Remains t (go a t)) : Remains s (Session.andThen r go) := by
  refine ⟨h.escalates.andThen fun a t => (hgo a t).escalates, ?_⟩
  obtain ⟨f | a, t⟩ := r
  · exact h.stays
  · intro h₀
    have hq : Remains t (go a t) := hgo a t
    have hs : s.denials t = 0 := h.escalates.denials_of_ok rfl
    have ht : t.denials (go a t).2 = 0 := by
      have hsum := denials_add h.escalates.later hq.escalates.later
      rw [hs, Nat.zero_add] at hsum
      rw [← hsum]
      exact h₀
    calc (go a t).2.route = t.route := hq.stays ht
      _ = s.route := h.stays hs

/-- An operation that goes to a place when it succeeds leaves the user where it says. -/
theorem visit (h : Remains s r) (c : Setup) (place : α → Route) :
    Lands s (Session.andThen r fun a t =>
      (.ok (t.navigate c (place a)).1, (t.navigate c (place a)).2)) id s.route := by
  obtain ⟨f | a, t⟩ := r
  · refine ⟨h.escalates.route_of_denials, ?_, fun _ _ => h.stays⟩
    rintro a ⟨⟩
  · have h₀ : s.denials (t.navigate c (place a)).2 = 0 := by
      have hs : s.denials t = 0 := h.escalates.denials_of_ok rfl
      rw [← hs, denials, denials, server_navigate]
    refine ⟨fun hd => absurd h₀ hd, ?_, ?_⟩
    · rintro x ⟨⟩
      exact route_navigate c (place a) t
    · rintro f ⟨⟩

end Remains

variable {c : Setup} {s : Session}

/-- It does not matter where the user was who goes to a page before anything is sent. -/
theorem Lands.of_route {q : Except Failure α × Session} {reached : α → Route}
    {route place : Route} (hq : Lands { s with route } q reached place) :
    Lands s q reached place :=
  ⟨hq.denied, hq.ok, hq.failed⟩

theorem isDenied_of_isSuccess {a : Ask} {r : Answer} (ha : s.answer? c a = some r)
    (hr : r.isSuccess = true) : s.isDenied c a = false := by
  have hd : r.status ≠ unauthorized := status_ne_of_isSuccess hr
  simp [isDenied, ha, hd]

/-- A fetch that brings something leaves the session as live as it was. -/
theorem isLive_of_fetch {read : Outline → Except Mistake α} {a : Ask} {v : α}
    (h : (s.fetch c read a).1 = .ok v) : (s.fetch c read a).2.isLive c = s.isLive c := by
  obtain ⟨r, ha, hr, -, -⟩ := fetch_eq_ok.mp h
  have hd : s.isDenied c a = false := isDenied_of_isSuccess ha hr
  show (s.ask c a).2.isLive c = s.isLive c
  rw [isLive_ask, hd, Bool.not_false, Bool.and_true]

/-- What is answered does not depend on where the user is. -/
theorem answer?_of_route (a : Ask) (route : Route) :
    ({ s with route } : Session).answer? c a = s.answer? c a := by
  have hr : ({ s with route } : Session).request c a = s.request c a := rfl
  unfold answer?
  rw [hr]
  cases hk : (s.request c a).call with
  | error cause => rw [send_of_error hk, send_of_error hk]
  | ok k => rw [(send_of_call hk _).1, (send_of_call hk _).1, exchange_fst, exchange_fst]

section

variable (hc : c.isPlain = true)
include hc

/-- A call moves nobody who is not denied. -/
theorem remains_ask (a : Ask) (s : Session) : Remains s (s.ask c a) := by
  have he : Escalates s (s.ask c a) := escalates_ask hc a s
  refine ⟨he, ?_⟩
  have hk : (s.sent c a).route = s.route := (keeps_sent c a s).route
  have ho := ask_outcome c a s
  generalize s.ask c a = x at ho he ⊢
  intro h₀
  cases ho with
  | unanswered => exact hk
  | denied r =>
    have hu : Failure.permission.payload.isUnauthorized = false := he.spared h₀ _ rfl
    cases hu
  | success => exact hk
  | failure => exact hk

theorem remains_fetch (read : Outline → Except Mistake α) (a : Ask) (s : Session) :
    Remains s (s.fetch c read a) :=
  (remains_ask hc a s).bind fun _ _ hr hf => isUnauthorized_decode (isSuccess_of_ask hr) hf

theorem remains_tell (a : Ask) (s : Session) : Remains s (s.tell c a) :=
  (remains_ask hc a s).map _

end

end Session

open Session (Remains Stays Lands)

/-! ### Pages -/

section

variable {c : Setup} (hc : c.isPlain = true)
include hc

theorem Collection.remains_update {E : Type} [Entity E] (d : Edit E) (s : Session) :
    Remains s ((update c .banner d s).1, (update c .banner d s).2.2) := by
  rw [update_eq_report]
  exact (Session.remains_fetch hc _ _ s).report.map _

theorem RecordScreen.remains_load (id : String) (s : Session) :
    Remains s (RecordScreen.load c id s) := by
  rw [load_eq_andThen]
  refine Remains.andThen (Session.remains_fetch hc _ _ s).report fun record t => ?_
  refine Remains.andThen (Session.remains_fetch hc _ _ t).report fun users u => ?_
  exact .ok u _

theorem RecordScreen.stays_change (p : RecordScreen) (edit : Record → Record) (s : Session) :
    Stays s (p.change c edit s).2.2 :=
  (Collection.remains_update hc ((Edit.begin p.record).apply edit) s).stay

theorem RecordScreen.lands_delete (p : RecordScreen) (s : Session) :
    Lands s (p.delete c s) id s.route := by
  rw [delete_eq_andThen]
  have h : Remains s (Collection.remove c .banner p.record s) :=
    (Session.remains_tell hc _ s).report
  exact h.visit c fun _ => .records

theorem UserScreen.remains_load (id : String) (s : Session) :
    Remains s (UserScreen.load c id s) := by
  rw [load_eq_andThen]
  refine Remains.andThen (Session.remains_fetch hc _ _ s).report fun user t => ?_
  refine Remains.andThen (Session.remains_fetch hc _ _ t).report fun records u => ?_
  exact .ok u _

theorem UserScreen.stays_submitPassword (p : UserScreen) (s : Session) :
    Stays s (p.submitPassword c s).2 := by
  have hp : Stays s (Collection.postPassword c p.user.id p.password s).2 :=
    (Session.remains_tell hc _ s).stay
  unfold UserScreen.submitPassword
  by_cases hm : p.password ≠ p.confirmation
  · rw [if_pos hm]
    exact (Remains.ok s ()).stay
  · rw [if_neg hm]
    generalize Collection.postPassword c p.user.id p.password s = r at hp ⊢
    obtain ⟨f | _, t⟩ := r
    · exact hp
    · exact hp

theorem UserScreen.lands_delete (p : UserScreen) (s : Session) :
    Lands s (p.delete c s) id s.route := by
  rw [delete_eq_andThen]
  have h : Remains s (Collection.remove c .banner p.user s) :=
    (Session.remains_tell hc _ s).report
  exact h.visit c fun _ => .users

end

/-- Where someone comes to who goes to a place that needs a session. -/
theorem Session.navigate_fst {c : Setup} {target : Route} (ht : target.needsSession = true)
    (s : Session) : (s.navigate c target).1 = if s.isLive c then target else .login := by
  cases hl : s.isLive c with
  | true =>
    rw [Session.navigate_of_live hl (Route.ne_logout ht), if_pos rfl]
  | false => simp [Session.navigate, Session.detour, ht, hl]

/-- An operation that goes to a place when it succeeds returns where the user comes to. -/
theorem Session.andThen_visit_eq_ok {c : Setup} {r : Except Failure α × Session}
    {place : α → Route} {x : Route} :
    (Session.andThen r fun a t =>
      (.ok (t.navigate c (place a)).1, (t.navigate c (place a)).2)).1 = .ok x ↔
      ∃ a, r.1 = .ok a ∧ x = (r.2.navigate c (place a)).1 := by
  obtain ⟨f | a, t⟩ := r
  · simp [Session.andThen]
  · simp [Session.andThen, eq_comm]

theorem RecordScreen.delete_ok {c : Setup} {p : RecordScreen} {s : Session} {r : Route}
    (h : (p.delete c s).1 = .ok r) :
    r = if (Collection.remove c .banner p.record s).2.isLive c then .records else .login := by
  rw [delete_eq_andThen, Session.andThen_visit_eq_ok] at h
  obtain ⟨_, -, rfl⟩ := h
  exact Session.navigate_fst rfl _

theorem UserScreen.delete_ok {c : Setup} {p : UserScreen} {s : Session} {r : Route}
    (h : (p.delete c s).1 = .ok r) :
    r = if (Collection.remove c .banner p.user s).2.isLive c then .users else .login := by
  rw [delete_eq_andThen, Session.andThen_visit_eq_ok] at h
  obtain ⟨_, -, rfl⟩ := h
  exact Session.navigate_fst rfl _

namespace Collection

variable {E : Type} [Entity E] {c : Setup} {h : Handler} {draft : Entity.Draft E} {s : Session}
  {e : E}

/-- A thing is created when the answer is a success that arrives whole and holds it. -/
theorem create_eq_ok : (create E c h draft s).1 = .ok e ↔
    ∃ a, s.answer? c (Use.create draft : Use E).ask = some a ∧ a.isSuccess = true ∧
      a.whole = true ∧ Decode.document Entity.read a.body = .ok e := by
  rw [create, report_fst]
  exact Session.fetch_eq_ok

/-- Whoever has created a thing is logged in as before. -/
theorem isLive_of_create (he : (create E c h draft s).1 = .ok e) :
    (create E c h draft s).2.isLive c = s.isLive c := by
  unfold create at he ⊢
  rw [report_fst] at he
  have hl := Session.isLive_of_fetch he
  unfold report
  rw [he]
  exact hl

end Collection

/-! ### The console -/

namespace Console

/-- Where an operation on a page leaves the user of a console, who has to be logged in to
enter it. -/
structure LandsOn (c : Setup) (k : Console) (r : Except Failure α × Console)
    (reached : α → Route) (page : Route) : Prop where
  refused : k.session.isLive c = false → r.2.session.route = .login
  entered : k.session.isLive c = true → Lands k.session (r.1, r.2.session) reached page

variable {c : Setup} {k : Console}

theorem within_of_live {target : Route} (hk : k.session.isLive c = true) (ht : target ≠ .logout)
    (go : Session → Except Failure α × Session) :
    k.within c target go =
      ((go { k.session with route := target }).1,
        { k with session := (go { k.session with route := target }).2 }) := by
  rw [within, enter_eq_ok hk ht]

/-- Whoever enters a page is where what is done there leads to. -/
theorem landsOn_within {target : Route} (ht : target.needsSession = true)
    {go : Session → Except Failure α × Session} {reached : α → Route}
    (hgo : ∀ s : Session, s.route = target → Lands s (go s) reached target) :
    LandsOn c k (k.within c target go) reached target where
  refused hk := by
    rw [within_of_lacks (Session.isLive_eq_false_iff.mp hk) ht]
    rfl
  entered hk := by
    have hl : Lands { k.session with route := target }
        (go { k.session with route := target }) reached target := hgo _ rfl
    rw [within_of_live hk (Route.ne_logout ht)]
    exact hl.of_route

theorem lands_onward {place : E → Route} {s : Session} {r : Except Failure E × Session}
    (h : Remains s r) : Lands s (onward c place r) id s.route := by
  rw [onward_eq_andThen]
  exact h.visit c place

/-- A page on which a thing is created is left for the place of that thing when the server
sends it back, and at no other time. -/
theorem within_create_eq_ok [Entity E] {page : Route} (hp : page.needsSession = true)
    {place : E → Route} (hplace : ∀ e, (place e).needsSession = true) (draft : Entity.Draft E)
    {r : Route} :
    (k.within c page fun s => onward c place (Collection.create E c .banner draft s)).1 = .ok r ↔
      k.session.isLive c = true ∧ ∃ a e,
        k.session.answer? c (Use.create draft : Use E).ask = some a ∧ a.isSuccess = true ∧
        a.whole = true ∧ Decode.document Entity.read a.body = .ok e ∧ r = place e := by
  cases hk : k.session.isLive c with
  | false =>
    have hl : k.session.Lacks c := Session.isLive_eq_false_iff.mp hk
    simp [within_of_lacks hl hp]
  | true =>
    have hlive : ({ k.session with route := page } : Session).isLive c = true := hk
    have hanswer := Session.answer?_of_route (c := c) (s := k.session)
      (Use.create draft : Use E).ask page
    rw [within_of_live hk (Route.ne_logout hp), ← hanswer]
    generalize ({ k.session with route := page } : Session) = s at hlive ⊢
    rw [onward_eq_andThen, Session.andThen_visit_eq_ok]
    simp only [true_and]
    constructor
    · rintro ⟨e, he, rfl⟩
      obtain ⟨a, ha, hs, hw, hd⟩ := Collection.create_eq_ok.mp he
      refine ⟨a, e, ha, hs, hw, hd, ?_⟩
      rw [Session.navigate_fst (hplace e), Collection.isLive_of_create he, hlive, if_pos rfl]
    · rintro ⟨a, e, ha, hs, hw, hd, rfl⟩
      have he := Collection.create_eq_ok (h := .banner).mpr ⟨a, ha, hs, hw, hd⟩
      refine ⟨e, he, ?_⟩
      rw [Session.navigate_fst (hplace e), Collection.isLive_of_create he, hlive, if_pos rfl]

/-- Where the operations of a console and of its pages leave the user. Every place that an
operation returns is the place where the user is. -/
structure EndsUp (c : Setup) : Prop where
  login_ok : ∀ (k : Console) email password r, (k.login c email password).1 = .ok r →
    r = .records ∧ (k.login c email password).2.session.route = r
  login_error : ∀ (k : Console) email password m, (k.login c email password).1 = .error m →
    (k.login c email password).2.session.route = k.session.route
  logout : ∀ k : Console,
    (k.logout c).1 = .login ∧ (k.logout c).2.session.route = (k.logout c).1
  checkLive : ∀ k : Console, Stays k.session (k.checkLive c).2.session
  records : ∀ k : Console, LandsOn c k (k.records c) (fun _ => .records) .records
  users : ∀ k : Console, LandsOn c k (k.users c) (fun _ => .users) .users
  openRecord : ∀ (k : Console) id,
    LandsOn c k (k.openRecord c id) (fun _ => .record id) (.record id)
  openUser : ∀ (k : Console) id, LandsOn c k (k.openUser c id) (fun _ => .user id) (.user id)
  newRecord : ∀ (k : Console) draft, LandsOn c k (k.newRecord c draft) id .newRecord
  newRecord_ok : ∀ (k : Console) draft r, (k.newRecord c draft).1 = .ok r ↔
    k.session.isLive c = true ∧ ∃ a e,
      k.session.answer? c (Use.create draft : Use Record).ask = some a ∧ a.isSuccess = true ∧
      a.whole = true ∧ Decode.document Record.read a.body = .ok e ∧ r = .record e.id
  newUser : ∀ (k : Console) draft, LandsOn c k (k.newUser c draft) id .newUser
  newUser_ok : ∀ (k : Console) draft r, (k.newUser c draft).1 = .ok r ↔
    k.session.isLive c = true ∧ ∃ a e,
      k.session.answer? c (Use.create draft : Use User).ask = some a ∧ a.isSuccess = true ∧
      a.whole = true ∧ Decode.document User.read a.body = .ok e ∧ r = .users
  setBlacklist : ∀ (p : RecordScreen) blacklist s, Stays s (p.setBlacklist c blacklist s).2.2
  saveOwner : ∀ (p : RecordScreen) email s, Stays s (p.saveOwner c email s).2.2
  clearClients : ∀ (p : RecordScreen) s, Stays s (p.clearClients c s).2.2
  deleteRecord : ∀ (p : RecordScreen) s, Lands s (p.delete c s) id s.route
  deleteRecord_ok : ∀ (p : RecordScreen) s r, (p.delete c s).1 = .ok r →
    r = if (Collection.remove c .banner p.record s).2.isLive c then .records else .login
  submitPassword : ∀ (p : UserScreen) s, Stays s (p.submitPassword c s).2
  deleteUser : ∀ (p : UserScreen) s, Lands s (p.delete c s) id s.route
  deleteUser_ok : ∀ (p : UserScreen) s r, (p.delete c s).1 = .ok r →
    r = if (Collection.remove c .banner p.user s).2.isLive c then .users else .login

/-- Logging in leads to the records, and only when it succeeds. -/
theorem route_login (k : Console) (email password : String) :
    (∀ r, (k.login c email password).1 = .ok r →
      r = .records ∧ (k.login c email password).2.session.route = r) ∧
    (∀ m, (k.login c email password).1 = .error m →
      (k.login c email password).2.session.route = k.session.route) := by
  cases hl : (k.session.login c ⟨email, password⟩).1 with
  | ok t =>
    rw [login_of_ok hl]
    refine ⟨?_, ?_⟩
    · rintro r ⟨⟩
      exact ⟨rfl, rfl⟩
    · rintro m ⟨⟩
  | error f =>
    rw [login_of_error hl]
    refine ⟨?_, fun m _ => Session.login_route c ⟨email, password⟩ k.session⟩
    rintro r ⟨⟩

/-- The check makes one call at most. -/
theorem stays_checkLive (hc : c.isPlain = true) (k : Console) :
    Stays k.session (k.checkLive c).2.session := by
  rw [session_checkLive]
  by_cases hl : (k.session.isLive c && !k.infoRequested) = true
  · rw [if_pos hl]
    exact (Session.remains_ask hc _ _).stay
  · rw [if_neg hl]
    exact (Remains.ok k.session ()).stay

/-- **Where the user ends** can be told from what came of an operation. -/
theorem ends_up {c : Setup} (hc : c.isPlain = true) : EndsUp c where
  login_ok k email password := (route_login k email password).1
  login_error k email password := (route_login k email password).2
  logout _ := ⟨rfl, rfl⟩
  checkLive := stays_checkLive hc
  records _ := landsOn_within rfl fun s hs => (Session.remains_fetch hc _ _ s).report.lands hs
  users _ := landsOn_within rfl fun s hs => (Session.remains_fetch hc _ _ s).report.lands hs
  openRecord _ id := landsOn_within rfl fun s hs => (RecordScreen.remains_load hc id s).lands hs
  openUser _ id := landsOn_within rfl fun s hs => (UserScreen.remains_load hc id s).lands hs
  newRecord _ _ := landsOn_within rfl fun s hs =>
    hs ▸ lands_onward (Session.remains_fetch hc _ _ s).report
  newRecord_ok _ draft _ := within_create_eq_ok (E := Record) rfl (fun _ => rfl) draft
  newUser _ _ := landsOn_within rfl fun s hs =>
    hs ▸ lands_onward (Session.remains_fetch hc _ _ s).report
  newUser_ok _ draft _ := within_create_eq_ok (E := User) rfl (fun _ => rfl) draft
  setBlacklist p _ := RecordScreen.stays_change hc p _
  saveOwner p _ := RecordScreen.stays_change hc p _
  clearClients p := RecordScreen.stays_change hc p _
  deleteRecord := RecordScreen.lands_delete hc
  deleteRecord_ok _ _ _ := RecordScreen.delete_ok
  submitPassword := UserScreen.stays_submitPassword hc
  deleteUser := UserScreen.lands_delete hc
  deleteUser_ok _ _ _ := UserScreen.delete_ok

/-- Whoever is denied on the page of a record ends at the login page. -/
theorem ends_up_denied :
    Setup.loopback.isPlain = true ∧ deniedFirst.session.isLive .loopback = true ∧
    deniedFirst.session.denials (deniedFirst.openRecord .loopback "1").2.session ≠ 0 ∧
    (deniedFirst.openRecord .loopback "1").2.session.route = .login := by
  have hlive : deniedFirst.session.isLive .loopback = true := by decide +kernel
  have hdenied : deniedFirst.session.denials
      (deniedFirst.openRecord .loopback "1").2.session ≠ 0 := by decide +kernel
  have h := ((ends_up (c := .loopback) (by decide)).openRecord deniedFirst "1").entered hlive
  exact ⟨by decide, hlive, hdenied, h.denied hdenied⟩

end Console
end ProxyConsole
