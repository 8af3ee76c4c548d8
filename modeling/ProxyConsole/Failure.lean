/-
# Failures of calls

A failure says why a call brought nothing: login was refused, the server found
fields wrong, the call did not get through, the session is not good for it, or
the token could not be stored. `Failure.payload` is what the user interface is
told of it, and `Payload.shown` is the one line that the user sees.

A failure that comes of a mistake in a text holds that text, and its message
names the place in it.

Key definitions: `Failure`, `Failure.ofAnswer`, `Failure.messageAt`,
`Failure.payload`, `Payload.shown`.
Key theorem: `Failure.payload_unauthorized_ofAnswer`.
-/
import ProxyConsole.Token

namespace ProxyConsole

/-- The status by which the server denies a call. -/
def unauthorized : Nat := 401

/-- Status and body of a failed call; there is no status when no answer came,
and the body is `null` when it is no JSON. -/
structure Payload where
  status : Option Nat
  body : Json
  deriving Repr, Inhabited

namespace Payload

/-- What is shown when the server lists wrong fields. -/
def missingFields : String := "missing one or more required fields"

/-- What is shown when there is nothing better. -/
def generic : String := "there was an error during the request"

/-- The text under `error` in a body, unless it is empty. -/
def reason? (body : Json) : Option String :=
  match (body.member? "error").bind Json.string? with
  | some s => if s.isEmpty then none else some s
  | none => none

/-- The line that a failure shows. -/
def shown (p : Payload) : String :=
  match reason? p.body with
  | some s => s
  | none => if p.body.isArray then missingFields else generic

def isUnauthorized (p : Payload) : Bool :=
  p.status == some unauthorized

end Payload

/-- Why login was refused. -/
inductive Denial where
  /-- The server refuses, with a reason. -/
  | rejected (reason : String)
  /-- The answer holds no token. -/
  | badAnswer
  /-- The text in the answer is no token. -/
  | badToken (text : String) (f : TokenFlaw)
  /-- The token has expired already. -/
  | expired
  deriving DecidableEq, Repr

namespace Denial

/-- The message, with the place of a mistake. -/
def messageAt (spot : Option Spot) : Denial → String
  | rejected reason => reason
  | badAnswer => "malformed token response: error decoding response body"
  | badToken _ f => "unreadable token: " ++ f.messageAt spot
  | expired => "issued token has already expired"

end Denial

/-- Why a call did not get through. -/
inductive Cause where
  /-- The server answered with a status that is no success. -/
  | status (n : Nat)
  /-- The address or the token cannot be part of a request. -/
  | unsendable
  /-- The address is not one that a request can go to. -/
  | badAddress (url : String)
  /-- No answer came. -/
  | noAnswer (url : String)
  /-- The answer was cut off. -/
  | cutOff
  /-- The body of the answer is not of the form asked for. -/
  | badBody (m : Mistake) (body : List UInt8)
  /-- A cause in words. -/
  | stated (text : String)
  deriving DecidableEq, Repr

namespace Cause

/-- The message, with the place of a mistake. -/
def messageAt (spot : Option Spot) : Cause → String
  | status n => "server responded with status " ++ Decimal.intString n
  | unsendable => "builder error"
  | badAddress url => "builder error for url (" ++ url ++ ")"
  | noAnswer url => "error sending request for url (" ++ url ++ ")"
  | cutOff => "error decoding response body"
  | badBody m _ => "unexpected response body: " ++ m.messageAt spot
  | stated text => text

end Cause

/-- Why a call brought nothing. -/
inductive Failure where
  /-- Login was refused. -/
  | auth (d : Denial)
  /-- The server lists what is wrong with the fields that were sent. -/
  | validation (status : Nat) (errors : List Json)
  /-- The call did not get through, or its answer is of no use. -/
  | transport (status : Option Nat) (body : Json) (cause : Cause)
  /-- The session is not good for the call. -/
  | permission
  /-- The token could not be stored. -/
  | storage (text : String)
  deriving Repr

namespace Failure

/-- The failure of a call that no answer came to. -/
def unanswered (cause : Cause) : Failure :=
  transport none .null cause

/-- The failure that an answer stands for whose status is no success. -/
def ofAnswer (status : Nat) (body : Json) : Failure :=
  if status = unauthorized then permission
  else match body with
    | .array errors => validation status errors
    | _ => transport (some status) body (.status status)

/-- The message, with the place of a mistake. -/
def messageAt (spot : Option Spot) : Failure → String
  | auth d => "authentication failed: " ++ d.messageAt spot
  | validation _ errors =>
    "validation failed with " ++ Decimal.intString errors.length ++ " field error(s)"
  | transport _ _ cause => "request failed: " ++ cause.messageAt spot
  | permission => "authorization denied"
  | storage text => "token storage error: " ++ text

/-- The message without a place. -/
def message (f : Failure) : String :=
  f.messageAt none

/-- What the user interface is told of a failure; of a login that was refused it is told the
reason, with the place of a mistake. -/
def payloadAt (spot : Option Spot) : Failure → Payload
  | auth d => ⟨none, .object [("error", .string (d.messageAt spot))]⟩
  | validation status errors => ⟨some status, .array errors⟩
  | transport status body _ => ⟨status, body⟩
  | permission => ⟨some unauthorized, .null⟩
  | storage _ => ⟨none, .null⟩

/-- What the user interface is told of a failure, without a place. -/
def payload (f : Failure) : Payload :=
  f.payloadAt none

def isPermission : Failure → Bool
  | permission => true
  | _ => false

/-- An answer is told as denied exactly when its status says so. -/
theorem payload_unauthorized_ofAnswer (status : Nat) (body : Json) :
    (ofAnswer status body).payload.isUnauthorized = true ↔ status = unauthorized := by
  unfold ofAnswer
  split
  · next h => simp [h, payload, payloadAt, Payload.isUnauthorized]
  · next h =>
    split
    · simp [payload, payloadAt, Payload.isUnauthorized]
    · simp [payload, payloadAt, Payload.isUnauthorized]

end Failure
end ProxyConsole
