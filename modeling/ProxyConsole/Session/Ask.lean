/-
# Calls under a session

A call carries the token of the session when it is good. An answer that denies
it ends the session; any other answer that is no success is a failure of the
call alone.

Key definitions: `Ask`, `Session.ask`, `Session.fetch`.
Key theorem: `Session.ask_unsent`.
-/
import ProxyConsole.Session.Basic

namespace ProxyConsole

/-- What is asked of the server: a method, a path, the pairs that a fetch adds to
the query, and a body. -/
structure Ask where
  method : String
  path : String
  pairs : Option (List (String × String))
  body : Option Json
  deriving Repr

namespace Ask

/-- A fetch. -/
def get (path : String) (pairs : List (String × String)) : Ask :=
  ⟨"GET", path, some pairs, none⟩

/-- A call that sends a body. -/
def send (method path : String) (body : Json) : Ask :=
  ⟨method, path, none, some body⟩

def delete (path : String) : Ask :=
  ⟨"DELETE", path, none, none⟩

end Ask

namespace Session

/-- The request for a call, with the token of the session when it is good. -/
def request (c : Setup) (a : Ask) (s : Session) : Request :=
  ⟨a.method, c.address a.path, a.pairs, (s.current c).map (·.text), a.body⟩

/-- What becomes of an answer. -/
def judge (a : Answer) (s : Session) : Except Failure Answer × Session :=
  match s.escalate a.status with
  | (true, s) => (.error .permission, s)
  | (false, s) =>
    if a.isSuccess then (.ok a, s) else (.error (.ofAnswer a.status a.json), s)

/-- Makes a call; an answer that comes back is a success. -/
def ask (c : Setup) (a : Ask) (s : Session) : Except Failure Answer × Session :=
  match s.send c (s.request c a) with
  | (.error f, s) => (.error f, s)
  | (.ok r, s) => s.judge r

/-- Makes a call whose answer does not matter. -/
def tell (c : Setup) (a : Ask) (s : Session) : Except Failure Unit × Session :=
  let r := s.ask c a
  (r.1.map fun _ => (), r.2)

/-- Makes a call and reads the answer. -/
def fetch (c : Setup) (read : Outline → Except Mistake α) (a : Ask) (s : Session) :
    Except Failure α × Session :=
  let r := s.ask c a
  (r.1.bind (Answer.decode read), r.2)

/-- A call that cannot be sent changes nothing. -/
theorem ask_unsent {c : Setup} {a : Ask} {s : Session} {cause : Cause}
    (h : (s.request c a).call = .error cause) :
    s.ask c a = (.error (.unanswered cause), s) := by
  unfold ask send
  rw [h]

end Session
end ProxyConsole
