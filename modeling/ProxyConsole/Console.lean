/-
# The console

The console is a session with pages: who enters a page without being logged in
is sent to the login page. What the server tells of itself is fetched once, by
the first check that finds the session live.

Key definitions: `Console`, `Console.login`, `Console.checkLive`,
`Console.records`, `Console.openRecord`, `Console.newRecord`.
Key theorem: `Console.enter_eq_ok`.
-/
import ProxyConsole.Screen.Record
import ProxyConsole.Screen.User
import ProxyConsole.Session.Login
import ProxyConsole.ServerInfo

namespace ProxyConsole

/-- A session, what the server told of itself, and whether it was asked. -/
structure Console where
  session : Session
  info : Option ServerInfo
  infoRequested : Bool
  deriving Repr

namespace Console

/-- What is shown on the login page when logging in fails. -/
def loginFailed : String := "Invalid username or password"

/-- The path at which the server tells of itself. -/
def infoPath : String := "/api/info"

/-- A console whose session begins. -/
def start (s : Session) : Console :=
  ⟨s, none, false⟩

variable (c : Setup)

/-- Logs in and goes to the list of records. -/
def login (email password : String) (k : Console) : Except String Route × Console :=
  match k.session.login c ⟨email, password⟩ with
  | (.error _, s) => (.error loginFailed, { k with session := s })
  | (.ok _, s) =>
    let r := s.navigate c .records
    (.ok r.1, { k with session := r.2 })

/-- Goes to a place. -/
def navigate (target : Route) (k : Console) : Route × Console :=
  let r := k.session.navigate c target
  (r.1, { k with session := r.2 })

def logout (k : Console) : Route × Console :=
  k.navigate c .logout

/-- What the server tells of itself. -/
def fetchInfo (s : Session) : Except Failure ServerInfo × Session :=
  s.fetch c ServerInfo.read (.get infoPath [])

/-- Whether the session is live; the first time that it is, the server is asked to
tell of itself. -/
def checkLive (k : Console) : Bool × Console :=
  if k.session.isLive c then
    if k.infoRequested then (true, k)
    else match fetchInfo c k.session with
      | (.ok info, s) => (true, ⟨s, some info, true⟩)
      | (.error _, s) => (true, { k with session := s, infoRequested := true })
  else (false, k)

/-- Enters a page; who is sent elsewhere is not permitted. -/
def enter (target : Route) (s : Session) : Except Failure Unit × Session :=
  let r := s.navigate c target
  (if r.1 = target then .ok () else .error .permission, r.2)

/-- Enters a page and goes on there. -/
def within (target : Route) (go : Session → Except Failure α × Session) (k : Console) :
    Except Failure α × Console :=
  match enter c target k.session with
  | (.error f, s) => (.error f, { k with session := s })
  | (.ok _, s) =>
    let r := go s
    (r.1, { k with session := r.2 })

/-- The list of records. -/
def records (k : Console) : Except Failure (List Record) × Console :=
  k.within c .records (Collection.query Record c .banner [])

/-- The list of users. -/
def users (k : Console) : Except Failure (List User) × Console :=
  k.within c .users (Collection.query User c .banner [])

/-- The page of a record. -/
def openRecord (id : String) (k : Console) : Except Failure RecordScreen × Console :=
  k.within c (.record id) (RecordScreen.load c id)

/-- The page of a user. -/
def openUser (id : String) (k : Console) : Except Failure UserScreen × Console :=
  k.within c (.user id) (UserScreen.load c id)

/-- Goes to a place after something was created. -/
def onward (place : E → Route) (r : Except Failure E × Session) : Except Failure Route × Session :=
  match r with
  | (.error f, s) => (.error f, s)
  | (.ok e, s) =>
    let r := s.navigate c (place e)
    (.ok r.1, r.2)

/-- Creates a record and goes to its page. -/
def newRecord (draft : RecordDraft) (k : Console) : Except Failure Route × Console :=
  k.within c .newRecord fun s =>
    onward c (fun r : Record => .record r.id) (Collection.create Record c .banner draft s)

/-- Creates a user and goes to the list of users. -/
def newUser (draft : UserDraft) (k : Console) : Except Failure Route × Console :=
  k.within c .newUser fun s =>
    onward c (fun _ : User => .users) (Collection.create User c .banner draft s)

variable {c}

/-- Who is logged in may enter every page but the logout place. -/
theorem enter_eq_ok {target : Route} {s : Session} (h : s.isLive c = true)
    (ht : target ≠ .logout) : enter c target s = (.ok (), { s with route := target }) := by
  simp [enter, Session.navigate_of_live h ht]

end Console
end ProxyConsole
