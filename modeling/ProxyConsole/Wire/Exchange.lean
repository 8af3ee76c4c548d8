/-
# Requests and the server that answers them

A request is sent when its address can be read and its token may stand in a
header; a name and a password in its address go in another header of the same
kind, in front of the token. Then a server that listens takes it and gives the
next reply of its script: an answer, a closed connection, or nothing at all.
Behind an encrypted address only the wish to connect arrives, and no answer comes.

Key definitions: `Request.call`, `Answer`, `Reply`, `Arrival`, `Server`,
`Server.take`.
-/
import ProxyConsole.Wire.Url
import ProxyConsole.Failure

namespace ProxyConsole

/-- What is to be sent. A fetch adds pairs to the query of its address. -/
structure Request where
  method : String
  address : String
  pairs : Option (List (String × String))
  bearer : Option String
  body : Option Json
  deriving Repr

/-- A request that can be sent. -/
structure Call where
  method : String
  url : Url
  /-- The header for the name and the password in the address. -/
  basic : Option String
  bearer : Option String
  body : Option Json
  deriving Repr

namespace Request

/-- Whether a character may stand in a header: it is no control character but a tab. -/
def isHeaderChar (c : Char) : Bool :=
  (0x20 ≤ c.toNat && c.toNat ≠ 0x7F) || c == '\t'

/-- Whether a text may stand in a header. -/
def isHeaderText (s : String) : Bool :=
  s.toList.all isHeaderChar

/-- The address with the pairs of a fetch. -/
def extended (r : Request) (u : Url) : Url :=
  match r.pairs with
  | some ps => u.extend ps
  | none => u

/-- The greatest length of an address. -/
def maxLength : Nat := 65534

/-- Whether a request can go to an address: it is one of the web for pages, of no
more than the greatest length, and no quote, backtick or brace stands in its host. -/
def canReach (u : Url) : Bool :=
  (u.isHttp || u.isHttps) && u.text.length ≤ maxLength &&
    u.hostText.all fun c => !"\"`\x7b\x7d".toList.contains c

/-- The request as it is sent, or what keeps it from being sent. -/
@[irreducible] def call (r : Request) : Except Cause Call :=
  match Url.parse r.address with
  | none => .error .unsendable
  | some u =>
    if !u.hasHost then .error (.badAddress u.text)
    else if !((r.bearer.map isHeaderText).getD true) then .error .unsendable
    else
      let url := r.extended u.anonymous
      if canReach url then .ok ⟨r.method, url, u.basic?, r.bearer, r.body⟩
      else .error (.badAddress url.text)

end Request

/-- An answer: its status, its body, and whether the body arrived whole. -/
structure Answer where
  status : Nat
  body : List UInt8
  whole : Bool
  deriving DecidableEq, Repr

namespace Answer

def isSuccess (a : Answer) : Bool :=
  200 ≤ a.status && a.status ≤ 299

/-- Whether an answer of this status has a body. -/
def hasBody (status : Nat) : Bool :=
  status ≠ 204 && status ≠ 304

/-- The answer as it arrives. -/
def delivered (a : Answer) : Answer :=
  if hasBody a.status then a else { a with body := [], whole := true }

/-- The body as JSON; `null` when it is none or was cut off. -/
def json (a : Answer) : Json :=
  if a.whole then (Decode.json a.body).toOption.getD .null else .null

/-- What the body holds, or the failure of the call. -/
def decode (read : Outline → Except Mistake α) (a : Answer) : Except Failure α :=
  if a.whole then
    (Decode.document read a.body).mapError fun m =>
      .transport (some a.status) .null (.badBody m a.body)
  else .error (.unanswered .cutOff)

end Answer

/-- A reply of the server. -/
inductive Reply where
  | answer (a : Answer)
  /-- The connection is closed. -/
  | drop
  /-- No answer ever comes. -/
  | hang
  deriving DecidableEq, Repr

/-- A request as it arrived. -/
structure Arrival where
  method : String
  url : String
  /-- The header for a name and a password. -/
  basic : Option String
  /-- The header for a token. -/
  bearer : Option String
  body : Option Json
  deriving Repr

/-- The last of the headers that say who asks. -/
def Arrival.auth (x : Arrival) : Option String :=
  x.bearer.or x.basic

/-- What arrives of a call. -/
def Call.arrival (c : Call) : Arrival :=
  if c.url.isHttps then
    ⟨"CONNECT", String.ofList (c.url.hostText ++ ':' :: Decimal.text (c.url.port.getD 443)), none,
      none, none⟩
  else ⟨c.method, c.url.sent.text, c.basic, c.bearer.map ("Bearer " ++ ·), c.body⟩

/-- A server: whether it listens, the replies that it is going to give, and what
arrived so far. -/
structure Server where
  listening : Bool
  replies : List Reply
  arrivals : List Arrival
  deriving Repr

namespace Server

/-- The reply that a server gives whose script has ended. -/
def lastReply : Reply :=
  .answer ⟨404, [], true⟩

/-- The reply to a call, and the server after it. Where no server listens, the
connection fails. -/
def take (c : Call) (s : Server) : Reply × Server :=
  if s.listening then
    (match s.replies.headD lastReply with
      | .answer a => if c.url.isHttps then .drop else .answer a.delivered
      | r => r,
      { s with replies := s.replies.drop 1, arrivals := s.arrivals ++ [c.arrival] })
  else (.drop, s)

end Server
end ProxyConsole
