/-
# What a change on the page of a record sends

A record is shown with a change before the server has confirmed it, and what is sent is the
record as it is shown then. So whatever became of the changes before it, each change makes
one request, which puts the whole record at its place, and what can be read there is the
record that was shown with one field of it changed: the blacklist, the owner, or the clients.
An owner is looked for among the users that the page was opened with; where there is none
with the address, the record is sent as it is, and once the server has accepted it the page
tells that nobody was found.

Key definitions: `RecordScreen.Change`, `RecordScreen.Change.Makes`, `RecordScreen.makeAll`,
`RecordScreen.shown`, `RecordScreen.Puts`, `RecordScreen.Saves`, `RecordScreen.SendsWhole`.
Key theorems: `RecordScreen.makes_edit`, `RecordScreen.puts_request`,
`RecordScreen.requests_sends`, `RecordScreen.saves`, `RecordScreen.sends_whole`.
-/
import Mathlib.Data.List.Forall2
import ProxyConsole.Proofs.Ownership
import ProxyConsole.Proofs.ReadBack
import ProxyConsole.Proofs.Requests

namespace ProxyConsole
namespace RecordScreen

open Collection (Use)

variable {c : Setup} {users : List User}

/-! ### Changes -/

/-- A change that the page of a record offers. -/
inductive Change where
  | setBlacklist (blacklist : Bool)
  | saveOwner (email : String)
  | clearClients
  deriving DecidableEq, Repr

namespace Change

/-- How a page with some users changes a record. -/
def edit (users : List User) : Change → Record → Record
  | setBlacklist blacklist => fun r => { r with blacklist }
  | saveOwner email => fun r => (r.retarget email users).2
  | clearClients => fun r => { r with clients := [] }

/-- What a change is to make of a record. One field becomes another and the rest stays; the
owner becomes the first of the users with the address and stays too where there is none. -/
inductive Makes (users : List User) (r : Record) : Change → Record → Prop where
  | blacklist (blacklist : Bool) : Makes users r (.setBlacklist blacklist) { r with blacklist }
  | owner {email : String} {u : User} : u.IsFirst users email →
      Makes users r (.saveOwner email) { r with owner := ⟨u.id, u.email⟩ }
  | nobody {email : String} : (∀ u ∈ users, u.email ≠ email) → Makes users r (.saveOwner email) r
  | clients : Makes users r .clearClients { r with clients := [] }

/-- No change makes another record of a record. -/
theorem Makes.id {r r' : Record} {change : Change} (h : Makes users r change r') :
    r'.id = r.id := by
  cases h with
  | blacklist _ => rfl
  | owner _ => rfl
  | nobody _ => rfl
  | clients => rfl

end Change

open Change (Makes)

theorem makes_edit (users : List User) (r : Record) (change : Change) :
    Makes users r change (change.edit users r) := by
  cases change with
  | setBlacklist blacklist => exact .blacklist blacklist
  | saveOwner email =>
    simp only [Change.edit]
    cases hu : Record.userWithEmail email users with
    | some u =>
      have hfirst : u.IsFirst users email := Record.userWithEmail_eq_some.mp hu
      rw [Record.retarget_of_isFirst hfirst]
      exact .owner hfirst
    | none =>
      have hn : ∀ u ∈ users, u.email ≠ email := Record.userWithEmail_eq_none.mp hu
      rw [Record.retarget_eq_self hn]
      exact .nobody hn
  | clearClients => exact .clients

/-! ### Runs of changes -/

/-- The page and the session after a change. -/
def make (c : Setup) (x : RecordScreen × Session) : Change → RecordScreen × Session
  | .setBlacklist blacklist => (x.1.setBlacklist c blacklist x.2).2
  | .saveOwner email => (x.1.saveOwner c email x.2).2
  | .clearClients => (x.1.clearClients c x.2).2

/-- The page and the session after changes, in their order. -/
def makeAll (c : Setup) (x : RecordScreen × Session) (changes : List Change) :
    RecordScreen × Session :=
  changes.foldl (make c) x

/-- The changes, each with the record that was shown before it. -/
def shown (c : Setup) (x : RecordScreen × Session) : List Change → List (Record × Change)
  | [] => []
  | change :: changes => (x.1.record, change) :: shown c (make c x change) changes

/-- The call that a change makes. -/
def asks (p : RecordScreen) (change : Change) : Ask :=
  Collection.updateAsk ((Edit.begin p.record).apply (change.edit p.users))

/-- What a change does to the session. -/
def sends (c : Setup) (x : RecordScreen × Session) (change : Change) : List Deed :=
  (Use.updateWith (change.edit x.1.users) x.1.record).deeds c .banner x.2

/-- What changes do to the session, the latest in front. -/
def sendsAll (c : Setup) (x : RecordScreen × Session) : List Change → List Deed
  | [] => []
  | change :: changes => sendsAll c (make c x change) changes ++ sends c x change

theorem make_eq (x : RecordScreen × Session) (change : Change) :
    make c x change = (x.1.change c (change.edit x.1.users) x.2).2 := by
  cases change with
  | setBlacklist blacklist => rfl
  | saveOwner email => rfl
  | clearClients => rfl

theorem users_make (x : RecordScreen × Session) (change : Change) :
    (make c x change).1.users = x.1.users := by
  rw [make_eq, users_change]

theorem session_make (x : RecordScreen × Session) (change : Change) :
    (make c x change).2 = x.2.after c (sends c x change) := by
  rw [make_eq]
  exact Collection.use_eq_after c .banner x.2 (.updateWith (change.edit x.1.users) x.1.record)

theorem users_makeAll : ∀ (changes : List Change) (x : RecordScreen × Session),
    (makeAll c x changes).1.users = x.1.users
  | [], _ => rfl
  | change :: changes, x =>
    (users_makeAll changes (make c x change)).trans (users_make x change)

/-- What changes do to the session is a row of deeds. -/
theorem session_makeAll : ∀ (changes : List Change) (x : RecordScreen × Session),
    (makeAll c x changes).2 = x.2.after c (sendsAll c x changes)
  | [], _ => rfl
  | change :: changes, x => by
    rw [sendsAll, Session.after_append, ← session_make]
    exact session_makeAll changes (make c x change)

/-! ### What is sent -/

/-- A request that puts a record at its place as a change makes it of the one that was shown. -/
structure Puts (c : Setup) (users : List User) (x : Record × Change) (r : Request) : Prop where
  method : r.method = "PUT"
  address : r.address = c.address ("/api/records/" ++ x.1.id)
  body : ∃ body made, r.body = some body ∧ Decode.document Record.read body.bytes = .ok made ∧
    Makes users x.1 x.2 made

theorem requests_send (x : RecordScreen × Session) (change : Change) :
    x.2.requests c (sends c x change) = [x.2.request c (x.1.asks change)] :=
  Session.requests_handled c .banner x.2 _ _

theorem puts_request (p : RecordScreen) (s : Session) (change : Change) :
    Puts c p.users (p.record, change) (s.request c (p.asks change)) where
  method := rfl
  address := by
    rw [← (makes_edit p.users p.record change).id]
    rfl
  body := ⟨_, _, rfl, (Record.restores _).document, makes_edit p.users p.record change⟩

/-- **Each change makes one request**, which puts what the change makes of the record that is
shown before it. -/
theorem requests_sends : ∀ (changes : List Change) (x : RecordScreen × Session),
    List.Forall₂ (Puts c x.1.users) (shown c x changes) (x.2.requests c (sendsAll c x changes))
  | [], _ => .nil
  | change :: changes, x => by
    have ih := requests_sends changes (make c x change)
    rw [users_make] at ih
    rw [shown, sendsAll, Session.requests_append, requests_send, ← session_make]
    exact .cons (puts_request x.1 x.2 change) ih

/-! ### What is told of an owner -/

/-- The page tells whether an owner was found exactly when the server has accepted the record:
the answer to the call is a success that arrives whole and holds a record. It tells that one
was found when there is a user with the address. -/
def Saves (c : Setup) (p : RecordScreen) (s : Session) (email : String) : Prop :=
  ∀ found, (p.saveOwner c email s).1 = .ok found ↔
    (found = true ↔ ∃ u ∈ p.users, u.email = email) ∧
    ∃ answer copy, s.answer? c (p.asks (.saveOwner email)) = some answer ∧
      answer.isSuccess = true ∧ answer.whole = true ∧
      Decode.document Record.read answer.body = .ok copy

theorem saves (c : Setup) (p : RecordScreen) (s : Session) (email : String) :
    Saves c p s email := by
  intro found
  have hfound : (p.record.retarget email p.users).1 = found ↔
      (found = true ↔ ∃ u ∈ p.users, u.email = email) := by
    rw [← Record.retarget_eq_true (r := p.record), eq_comm, Bool.eq_iff_iff]
  have hfst : (p.saveOwner c email s).1 =
      (Collection.updateWith c .banner ((Change.saveOwner email).edit p.users) p.record s).1.map
        fun _ => (p.record.retarget email p.users).1 := rfl
  rcases Collection.updateWith_cases c .banner ((Change.saveOwner email).edit p.users) p.record s
    with ⟨copy, hcopy, hok, -⟩ | ⟨hnone, ⟨f, herror⟩, -⟩
  · obtain ⟨answer, haccepted⟩ := Collection.received?_eq_some.mp hcopy
    rw [hfst, hok, Except.map, Except.ok.injEq, hfound]
    exact ⟨fun h => ⟨h, answer, copy, haccepted⟩, And.left⟩
  · rw [hfst, herror]
    constructor
    · rintro ⟨⟩
    · rintro ⟨-, answer, copy, haccepted⟩
      rw [Collection.received?_eq_some.mpr ⟨answer, haccepted⟩] at hnone
      cases hnone

/-- Changes on the page of a record. The users stay those that the page was opened with; to
the session nothing is done but that each change makes one request, of which it is known what
it puts, and hands over its failure; and nothing else arrives at the server. -/
structure SendsWhole (c : Setup) (p : RecordScreen) (s : Session) (changes : List Change) :
    Prop where
  users : (makeAll c (p, s) changes).1.users = p.users
  session : (makeAll c (p, s) changes).2 = s.after c (sendsAll c (p, s) changes)
  requests : List.Forall₂ (Puts c p.users) (shown c (p, s) changes)
    (s.requests c (sendsAll c (p, s) changes))
  arrivals : (makeAll c (p, s) changes).2.server.arrivals = s.server.arrivals ++
    (s.requests c (sendsAll c (p, s) changes)).flatMap s.server.arrives

/-- **A change sends the whole record with one field changed**, whatever was changed before
and whatever the server replied; and at the end of a run of changes, as at any time in it, the
page tells of an owner what is so. -/
theorem sends_whole (c : Setup) (p : RecordScreen) (s : Session) (changes : List Change) :
    SendsWhole c p s changes ∧
      ∀ email, Saves c (makeAll c (p, s) changes).1 (makeAll c (p, s) changes).2 email := by
  have hsession := session_makeAll (c := c) changes (p, s)
  refine ⟨⟨users_makeAll changes (p, s), hsession, requests_sends changes (p, s), ?_⟩,
    saves c _ _⟩
  rw [hsession]
  exact Session.arrivals_requests c s _

end RecordScreen
end ProxyConsole
