/-
# Logging in

Credentials are exchanged for a token, which is kept when it is good. Whatever
goes wrong, the slot keeps what it kept, and a denial does not end the session
that there is.

Key definitions: `Session.login`, `Session.tokenOf`, `Denial.ofBody`.
Key theorem: `Session.login_route`.
-/
import ProxyConsole.Session.Basic
import ProxyConsole.Session.Credentials

namespace ProxyConsole

/-- The path that tokens are issued at. -/
def tokenPath : String := "/api/token"

namespace Denial

/-- The reason of a server that gives none. -/
def defaultReason : String := "invalid username or password"

/-- The denial that the body of an answer stands for. -/
def ofBody (body : Json) : Denial :=
  rejected (((body.member? "error").bind Json.string?).getD defaultReason)

end Denial

namespace Session

/-- The request that asks for a token; it carries none. -/
def loginRequest (c : Setup) (credentials : Credentials) : Request :=
  ⟨"POST", c.address tokenPath, none, none, some credentials.toJson⟩

/-- The good token that an answer holds. -/
def tokenOf (c : Setup) (a : Answer) : Except Denial Token :=
  if a.isSuccess then
    match a.decode TokenAnswer.read with
    | .error _ => .error .badAnswer
    | .ok t => match Token.read t.token with
      | .error f => .error (.badToken t.token f)
      | .ok t => if t.expiredAt c.today then .error .expired else .ok t
  else .error (.ofBody a.json)

/-- Keeps a token. -/
def keep (t : Token) (s : Session) : Except Failure Token × Session :=
  let r := s.slot.save t.text
  match r.1 with
  | .error e => (.error (.storage e.message), { s with slot := r.2 })
  | .ok _ => (.ok t, { s with slot := r.2 })

/-- Exchanges credentials for a token and keeps it. -/
def login (c : Setup) (credentials : Credentials) (s : Session) :
    Except Failure Token × Session :=
  match s.send c (loginRequest c credentials) with
  | (.error f, s) => (.error f, s)
  | (.ok a, s) => match tokenOf c a with
    | .error d => (.error (.auth d), s)
    | .ok t => s.keep t

theorem route_exchange (c : Setup) (call : Call) (s : Session) :
    (s.exchange c call).2.route = s.route := by
  unfold exchange
  dsimp only
  split <;> rfl

theorem route_send (c : Setup) (r : Request) (s : Session) : (s.send c r).2.route = s.route := by
  unfold send
  split
  · rfl
  · next call _ =>
    have h := route_exchange c call s
    split <;> simp_all

/-- Logging in does not move the user. -/
theorem login_route (c : Setup) (credentials : Credentials) (s : Session) :
    (s.login c credentials).2.route = s.route := by
  have h := route_send c (loginRequest c credentials) s
  unfold login
  split
  · next hs => rw [hs] at h; exact h
  · next hs =>
    rw [hs] at h
    split
    · exact h
    · unfold keep
      dsimp only
      split <;> exact h

end Session
end ProxyConsole
