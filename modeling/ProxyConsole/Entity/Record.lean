/-
# Routing records

A record says where the proxy sends the requests for a domain name: a host, a
port and a protocol. It carries a snapshot of its owner, taken when the record
was written, and the addresses of the clients that were routed by it.

Key definitions: `Protocol`, `Protocol.parse`, `Owner`, `Record`, `Record.read`,
`Record.toJson`.
-/
import ProxyConsole.Entity.User

namespace ProxyConsole

/-- The protocol that a handler speaks. -/
inductive Protocol where
  | http
  | https
  deriving DecidableEq, Repr, Inhabited

/-- A text that names no protocol, in lower case. -/
structure UnknownProtocol where
  name : String
  deriving DecidableEq, Repr

namespace UnknownProtocol

def message (u : UnknownProtocol) : String :=
  "handler protocol must be http or https, got '" ++ u.name ++ "'"

end UnknownProtocol

namespace Protocol

def text : Protocol → String
  | http => "http"
  | https => "https"

/-- The protocol of a name. -/
def ofName? (s : String) : Option Protocol :=
  if s = "http" then some http else if s = "https" then some https else none

/-- A text with the letters of ASCII in lower case. -/
def lowered (s : String) : String :=
  String.ofList (s.toList.map Char.toLower)

/-- The protocol that a text names in any case. -/
def parse (s : String) : Except UnknownProtocol Protocol :=
  match ofName? (lowered s) with
  | some p => .ok p
  | none => .error ⟨lowered s⟩

/-- The protocol of a name in JSON. -/
def named (s : String) : Except Mistake Protocol :=
  match ofName? s with
  | some p => .ok p
  | none => .error (.unknownName s "`http` or `https`")

/-- The name of a protocol where it stands as the name of a member. -/
def keyed (key : StringBody) : Except Mistake Protocol := do
  named (← Decode.wellFormed key.text)

/-- The mistake of an object whose first member does not name a protocol. -/
def memberMistake : MembersEnd → Mistake
  | .closed => .malformed .noValue
  | .ended => .malformed .valueEnds
  | .notAName found => found.refusal "variant identifier"
  | .nameOnly key textEnds => match keyed key with
    | .error m => m
    | .ok _ => .malformed (if textEnds then .objectEnds else .noColon)
  | _ => .malformed .noValue

/-- The protocol that an outline holds: its name, or an object whose only member
has that name and the value `null`. -/
def read : Outline → Except Mistake Protocol
  | .leaf (.string t) => do named (← Decode.wellFormed t.text)
  | .leaf (.broken .ended) => .error (.malformed .valueEnds)
  | .object [] stop => .error (memberMistake stop)
  | .object ((key, o) :: ms) stop => do
    let p ← keyed key
    Decode.unit o
    match ms, stop with
    | [], .closed => return p
    | [], .ended => .error (.malformed .objectEnds)
    | _, _ => .error (.malformed .noValue)
  | _ => .error (.malformed .noValue)

end Protocol

/-- The snapshot of the user who owns a record. -/
structure Owner where
  id : String
  email : String
  deriving DecidableEq, Repr, Inhabited

namespace Owner

def idField : Field String := ⟨"id", Decode.string, none⟩

def emailField : Field String := ⟨"email", Decode.string, none⟩

def form : Form := ⟨"Owner", [idField.rule, emailField.rule]⟩

/-- The owner that an outline holds. -/
def read : Outline → Except Mistake Owner :=
  form.read fun g => do
    return { id := ← idField.get g, email := ← emailField.get g }

def toJson (o : Owner) : Json :=
  .object [("id", .string o.id), ("email", .string o.email)]

/-- The snapshot of a user. -/
def ofUser (u : User) : Owner :=
  ⟨u.id, u.email⟩

end Owner

/-- A routing record. -/
structure Record where
  id : String
  fqdn : String
  handlerHost : String
  handlerPort : UInt16
  handlerProtocol : Protocol
  owner : Owner
  clients : List String
  blacklist : Bool
  createdAt : Int64
  updatedAt : Int64
  deriving DecidableEq, Repr, Inhabited

/-- What a record is created from; the server assigns the id and the owner. -/
structure RecordDraft where
  fqdn : String
  handlerHost : String
  handlerPort : UInt16
  handlerProtocol : Protocol
  deriving DecidableEq, Repr

namespace Record

def idField : Field String := ⟨"id", Decode.string, none⟩

def fqdnField : Field String := ⟨"fqdn", Decode.string, none⟩

def handlerHostField : Field String := ⟨"handler_host", Decode.string, none⟩

def handlerPortField : Field UInt16 := ⟨"handler_port", Decode.uint16, none⟩

def handlerProtocolField : Field Protocol := ⟨"handler_protocol", Protocol.read, none⟩

def ownerField : Field Owner := ⟨"owner", Owner.read, some ⟨"", ""⟩⟩

def clientsField : Field (List String) := ⟨"clients", Decode.list Decode.string, some []⟩

def blacklistField : Field Bool := ⟨"blacklist", Decode.bool, some false⟩

def createdAtField : Field Int64 := ⟨"created_at", Decode.int64, some 0⟩

def updatedAtField : Field Int64 := ⟨"updated_at", Decode.int64, some 0⟩

def form : Form where
  name := "Record"
  fields := [
    idField.rule, fqdnField.rule, handlerHostField.rule, handlerPortField.rule,
    handlerProtocolField.rule, ownerField.rule, clientsField.rule, blacklistField.rule,
    createdAtField.rule, updatedAtField.rule]

/-- The record with the given fields. -/
def build (g : Given) : Except Mistake Record := do
  return {
    id := ← idField.get g
    fqdn := ← fqdnField.get g
    handlerHost := ← handlerHostField.get g
    handlerPort := ← handlerPortField.get g
    handlerProtocol := ← handlerProtocolField.get g
    owner := ← ownerField.get g
    clients := ← clientsField.get g
    blacklist := ← blacklistField.get g
    createdAt := ← createdAtField.get g
    updatedAt := ← updatedAtField.get g }

/-- The record that an outline holds. -/
def read : Outline → Except Mistake Record :=
  form.read build

def toJson (r : Record) : Json :=
  .object [
    ("id", .string r.id),
    ("fqdn", .string r.fqdn),
    ("handler_host", .string r.handlerHost),
    ("handler_port", .int r.handlerPort.toNat),
    ("handler_protocol", .string r.handlerProtocol.text),
    ("owner", r.owner.toJson),
    ("clients", .array (r.clients.map .string)),
    ("blacklist", .bool r.blacklist),
    ("created_at", .int r.createdAt.toInt),
    ("updated_at", .int r.updatedAt.toInt)]

end Record

namespace RecordDraft

def toJson (d : RecordDraft) : Json :=
  .object [
    ("fqdn", .string d.fqdn),
    ("handler_host", .string d.handlerHost),
    ("handler_port", .int d.handlerPort.toNat),
    ("handler_protocol", .string d.handlerProtocol.text)]

end RecordDraft

instance : Entity Record where
  Draft := RecordDraft
  collection := "/api/records"
  id := Record.id
  settle := id
  toJson := Record.toJson
  read := Record.read
  draftJson := RecordDraft.toJson

end ProxyConsole
