/-
# The page of a record

The page shows one record and the users among whom its owner is looked up. Each
change sends the whole record with one field changed.

Key definitions: `RecordScreen`, `RecordScreen.load`, `RecordScreen.setBlacklist`,
`RecordScreen.saveOwner`, `RecordScreen.clearClients`, `RecordScreen.delete`.
Key theorem: `RecordScreen.users_change`.
-/
import ProxyConsole.Collection
import ProxyConsole.Entity.Ownership

namespace ProxyConsole

/-- The page of a record. -/
structure RecordScreen where
  record : Record
  users : List User
  deriving DecidableEq, Repr

namespace RecordScreen

/-- Fetches the record, then the users. -/
def load (c : Setup) (id : String) (s : Session) : Except Failure RecordScreen × Session :=
  match Collection.get Record c .banner id s with
  | (.error f, s) => (.error f, s)
  | (.ok record, s) => match Collection.query User c .banner [] s with
    | (.error f, s) => (.error f, s)
    | (.ok users, s) => (.ok ⟨record, users⟩, s)

/-- The user who owns the record, if still there. -/
def owner (p : RecordScreen) : Option User :=
  p.record.ownerAmong p.users

/-- Sends the record with a change. -/
def change (c : Setup) (edit : Record → Record) (p : RecordScreen) (s : Session) :
    Except Failure Record × RecordScreen × Session :=
  let r := Collection.updateWith c .banner edit p.record s
  (r.1, { p with record := r.2.1 }, r.2.2)

/-- Puts the record on the blacklist or takes it off. -/
def setBlacklist (c : Setup) (blacklist : Bool) (p : RecordScreen) (s : Session) :
    Except Failure Unit × RecordScreen × Session :=
  let r := p.change c (fun r => { r with blacklist }) s
  (r.1.map fun _ => (), r.2)

/-- Gives the record to the user with an e-mail address; sends it also when there
is none, and tells whether there is. -/
def saveOwner (c : Setup) (email : String) (p : RecordScreen) (s : Session) :
    Except Failure Bool × RecordScreen × Session :=
  let r := p.change c (fun r => (r.retarget email p.users).2) s
  (r.1.map fun _ => (p.record.retarget email p.users).1, r.2)

/-- Forgets the clients of the record. -/
def clearClients (c : Setup) (p : RecordScreen) (s : Session) :
    Except Failure Unit × RecordScreen × Session :=
  let r := p.change c (fun r => { r with clients := [] }) s
  (r.1.map fun _ => (), r.2)

/-- Deletes the record and goes back to the list. -/
def delete (c : Setup) (p : RecordScreen) (s : Session) : Except Failure Route × Session :=
  match Collection.remove c .banner p.record s with
  | (.error f, s) => (.error f, s)
  | (.ok _, s) =>
    let r := s.navigate c .records
    (.ok r.1, r.2)

/-- Changes of the record leave the users as they are. -/
theorem users_change (c : Setup) (edit : Record → Record) (p : RecordScreen) (s : Session) :
    (p.change c edit s).2.1.users = p.users := by
  simp only [change]

end RecordScreen
end ProxyConsole
