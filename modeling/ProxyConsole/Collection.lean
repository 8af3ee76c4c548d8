/-
# The collections of the server

The entities of a collection are fetched, listed, created, updated and deleted.
Every failure is handed to a handler once, and then returned. An update is shown
before it is confirmed and taken back when the call fails.

Key definitions: `Handler`, `Collection.get`, `Collection.query`,
`Collection.create`, `Collection.update`, `Collection.updateWith`,
`Collection.remove`, `Collection.removeFrom`, `Collection.changePassword`.
Key theorems: `Collection.report_ok`, `Collection.report_error`.
-/
import ProxyConsole.Entity.Optimistic
import ProxyConsole.Entity.Record
import ProxyConsole.Session.Ask

namespace ProxyConsole

/-- Who is told of failures. -/
inductive Handler where
  /-- The user; a denial has ended the session already and is not shown. -/
  | banner
  /-- Whoever collects failures. -/
  | collector
  deriving DecidableEq, Repr

namespace Handler

/-- Hands over a failure. -/
def handle (h : Handler) (f : Failure) (s : Session) : Session :=
  match h with
  | banner => if f.isPermission then s else s.fail f.payload
  | collector => { s with collected := s.collected ++ [f] }

end Handler

namespace Collection

/-- Hands over the failure of a result, if it is one. -/
def report (h : Handler) (r : Except Failure α × Session) : Except Failure α × Session :=
  match r.1 with
  | .ok _ => r
  | .error f => (.error f, h.handle f r.2)

variable (E : Type) [Entity E] (c : Setup) (h : Handler)

/-- The entity with an id. -/
def get (id : String) (s : Session) : Except Failure E × Session :=
  report h (s.fetch c Entity.read (.get (Entity.itemPath E id) []))

/-- The entities that match a filter, all of them when it is empty. -/
def query (filter : List (String × String)) (s : Session) : Except Failure (List E) × Session :=
  report h (s.fetch c (Decode.list Entity.read) (.get (Entity.collection E) filter))

/-- Creates an entity; the server assigns its id. -/
def create (draft : Entity.Draft E) (s : Session) : Except Failure E × Session :=
  report h (s.fetch c Entity.read
    (.send "POST" (Entity.collection E) (Entity.draftJson draft)))

variable {E}

/-- The call that sends the local entity of an edit. -/
def updateAsk (d : Edit E) : Ask :=
  .send "PUT" (Entity.itemPath E (Entity.id d.entity)) (Entity.toJson d.entity)

/-- Sends an edit, settled or not: the copy of the server is committed, and a
failure rolls the edit back. -/
def update (d : Edit E) (s : Session) : Except Failure E × Edit E × Session :=
  match s.fetch c Entity.read (updateAsk d) with
  | (.ok canonical, s) =>
    let d := d.commit canonical
    (.ok d.entity, d, s)
  | (.error f, s) => (.error f, d.rollBack, h.handle f s)

/-- Changes a local entity and sends it: the result, and the local entity after it. -/
def updateWith (change : E → E) (e : E) (s : Session) : Except Failure E × E × Session :=
  let r := update c h ((Edit.begin e).apply change) s
  (r.1, r.2.1.entity, r.2.2)

/-- Deletes an entity. -/
def remove (e : E) (s : Session) : Except Failure Unit × Session :=
  report h (s.tell c (.delete (Entity.itemPath E (Entity.id e))))

/-- Deletes the entity with an id, also from a local list once that is confirmed. -/
def removeFrom (kept : List E) (id : String) (s : Session) :
    Except Failure Unit × List E × Session :=
  match report h (s.tell c (.delete (Entity.itemPath E id))) with
  | (.ok _, s) => (.ok (), kept.filter fun e => Entity.id e ≠ id, s)
  | (.error f, s) => (.error f, kept, s)

/-- Sends a new password for a user; failures are left to the caller. -/
def postPassword (id password : String) (s : Session) : Except Failure Unit × Session :=
  s.tell c (.send "POST" (Entity.itemPath User id) (.object [("password", .string password)]))

/-- Sends a new password for a user. -/
def changePassword (id password : String) (s : Session) : Except Failure Unit × Session :=
  report h (postPassword c id password s)

variable {c h}

theorem report_ok {a : α} {s : Session} : report h (.ok a, s) = (.ok a, s) := rfl

/-- A failure is handed over once and returned. -/
theorem report_error {f : Failure} {s : Session} :
    report h ((.error f, s) : Except Failure α × Session) = (.error f, h.handle f s) := rfl

end Collection
end ProxyConsole
