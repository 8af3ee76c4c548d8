/-
# Sessions

A session joins the slot of the token, the place where the user is, what the
user is told, a clock, and the server. It is live while the slot holds a token
that can be read and has not expired; expiry is looked at when it is asked for
and at no other time.

Key definitions: `Setup`, `Session`, `Session.current`, `Session.isLive`,
`Session.logout`, `Session.escalate`, `Session.navigate`, `Session.exchange`.
Key theorems: `Session.navigate_of_live`, `Session.navigate_live`.
-/
import ProxyConsole.Notices
import ProxyConsole.Route
import ProxyConsole.Slot
import ProxyConsole.Wire.Exchange

namespace ProxyConsole

/-- What stays the same while a session runs: the address of the server, for how
many milliseconds a success is shown (for ever without a window), after how many
seconds a call is given up, and the date by which tokens expire. -/
structure Setup where
  server : String
  window : Option Nat
  timeout : Option Nat
  today : Int64
  deriving Repr

namespace Setup

/-- The address of the server without slashes at its end. -/
def base (c : Setup) : String :=
  String.ofList ((c.server.toList.reverse.dropWhile (· == '/')).reverse)

/-- The address of a path on the server. -/
def address (c : Setup) (path : String) : String :=
  c.base ++ path

end Setup

/-- A session at some instant. -/
structure Session where
  slot : Slot
  /-- How often the slot was cleared. -/
  clears : Nat
  route : Route
  /-- The places that the user was sent to without asking. -/
  redirects : List Route
  notices : Notices
  /-- Milliseconds since the session began. -/
  clock : Nat
  server : Server
  /-- The failures that were handed over to be collected. -/
  collected : List Failure
  deriving Repr

namespace Session

/-- A session that begins, on the login page. -/
def start (slot : Slot) (server : Server) : Session where
  slot
  clears := 0
  route := .login
  redirects := []
  notices := .empty
  clock := 0
  server
  collected := []

/-- The token of the slot when it is good. -/
def current (c : Setup) (s : Session) : Option Token :=
  (s.slot.load.bind Token.read?).filter fun t => !t.expiredAt c.today

/-- Whether the slot holds a good token. -/
def isLive (c : Setup) (s : Session) : Bool :=
  (s.current c).isSome

/-- Clears the slot. -/
def logout (s : Session) : Session :=
  { s with slot := s.slot.clear, clears := s.clears + 1 }

/-- Sends the user to a place. -/
def redirect (r : Route) (s : Session) : Session :=
  { s with route := r, redirects := s.redirects ++ [r] }

/-- Ends the session and sends the user to the login page. -/
def expel (s : Session) : Session :=
  s.logout.redirect .login

/-- Looks at the status of an answer: a denial ends the session. -/
def escalate (status : Nat) (s : Session) : Bool × Session :=
  if status = unauthorized then (true, s.expel) else (false, s)

/-- Where the user is sent who wants to enter a place; none when they may. -/
def detour (c : Setup) (target : Route) (s : Session) : Option Route :=
  if target.needsSession && !s.isLive c then some .login else none

/-- Takes the user to a place, or where they are sent instead; going to the logout
place ends the session and leads to the login page. -/
def navigate (c : Setup) (target : Route) (s : Session) : Route × Session :=
  match s.detour c target with
  | some r => (r, { s with route := r })
  | none =>
    if target = .logout then (.login, { s.logout with route := .login })
    else (target, { s with route := target })

/-- Lets time pass. -/
def wait (ms : Nat) (s : Session) : Session :=
  { s with clock := s.clock + ms, notices := s.notices.elapse (s.clock + ms) }

/-- Sends a call. A call that is never answered is given up after a time, if there
is one; all other failures come at once. -/
def exchange (c : Setup) (call : Call) (s : Session) : Option Answer × Session :=
  let r := s.server.take call
  let s := { s with server := r.2 }
  match r.1, c.timeout with
  | .answer a, _ => (some a, s)
  | .hang, some seconds => (none, s.wait (seconds * 1000))
  | _, _ => (none, s)

/-- Sends a request: the answer, or the failure when none came. -/
def send (c : Setup) (r : Request) (s : Session) : Except Failure Answer × Session :=
  match r.call with
  | .error cause => (.error (.unanswered cause), s)
  | .ok call =>
    match s.exchange c call with
    | (some a, s) => (.ok a, s)
    | (none, s) => (.error (.unanswered (.noAnswer call.url.text)), s)

/-- Tells the user of a success. -/
def succeed (c : Setup) (text : String) (s : Session) : Session :=
  { s with notices := s.notices.succeed c.window s.clock text }

/-- Tells the user of a failed call; a denial ends the session instead. -/
def fail (p : Payload) (s : Session) : Session :=
  if p.isUnauthorized then s.expel else { s with notices := s.notices.fail p }

/-- Takes away what the user was told. -/
def dismiss (s : Session) : Session :=
  { s with notices := s.notices.dismiss }

/-- Takes away the success whose time has passed. -/
def settle (s : Session) : Session :=
  { s with notices := s.notices.elapse s.clock }

theorem isLive_eq_of_slot {c : Setup} {s t : Session} (h : s.slot = t.slot) :
    s.isLive c = t.isLive c := by
  unfold isLive current
  rw [h]

/-- Who is logged in may go everywhere; only the logout place is no place to stay. -/
theorem navigate_of_live {c : Setup} {target : Route} {s : Session} (h : s.isLive c = true)
    (ht : target ≠ .logout) : s.navigate c target = (target, { s with route := target }) := by
  simp [navigate, detour, h, ht]

/-- Who navigates lands on the login page or is logged in. -/
theorem navigate_live (c : Setup) (target : Route) (s : Session) :
    (s.navigate c target).1 = .login ∨ (s.navigate c target).2.isLive c = true := by
  unfold navigate detour
  by_cases hd : (target.needsSession && !s.isLive c) = true
  · rw [if_pos hd]
    exact Or.inl rfl
  · rw [if_neg hd]
    by_cases ht : target = .logout
    · exact Or.inl (by rw [if_pos ht])
    · simp only [ht, ↓reduceIte]
      by_cases hl : target = .login
      · exact Or.inl hl
      · right
        have hn : target.needsSession = true := by
          cases target <;> simp_all [Route.needsSession]
        rw [hn, Bool.true_and, Bool.not_eq_true'] at hd
        have : s.isLive c = true := by simpa using hd
        rw [← this]
        exact isLive_eq_of_slot rfl

end Session
end ProxyConsole
