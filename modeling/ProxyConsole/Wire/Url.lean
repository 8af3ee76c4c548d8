/-
# Addresses

An address is read from a text as a browser reads it: blanks and control
characters at its ends and line breaks within it do not count, scheme and host
are brought to lower case, segments of dots are resolved, and what may not
stand in a place is percent-encoded. In an address of the web a backslash is a
slash.

A name and a password in front of the host are sent in a header, and the address
goes without them.

Key definitions: `Url`, `Url.parse`, `Url.text`, `Url.extend`, `Url.anonymous`,
`Url.basic?`.
Key theorem: `Url.extend_nil`.
-/
import ProxyConsole.Wire.Host
import ProxyConsole.Wire.UrlPath
import ProxyConsole.Number.Decimal
import ProxyConsole.Text.Base64Url

namespace ProxyConsole

/-- The name and the password in front of a host, percent-encoded. -/
structure UserInfo where
  name : List Char
  password : Option (List Char)
  deriving DecidableEq, Repr

namespace UserInfo

/-- The name and the password with a colon between them; an empty password is
none, and without either there is nothing. -/
def ofText? (cs : List Char) : Option UserInfo :=
  let encoded := Percent.encode Percent.inUserInfo
  let name := encoded (cs.takeWhile (· ≠ ':'))
  match cs.dropWhile (· ≠ ':') with
  | _ :: c :: r => some ⟨name, some (encoded (c :: r))⟩
  | _ => if name.isEmpty then none else some ⟨name, none⟩

def text (i : UserInfo) : List Char :=
  i.name ++ (match i.password with
    | some p => ':' :: p
    | none => []) ++ ['@']

/-- The bytes that an encoded text stands for. -/
def decoded (cs : List Char) : List UInt8 :=
  Percent.decode (Utf8.encode cs)

/-- Whether an encoded text stands for bytes that are a text. -/
def isReadable (cs : List Char) : Bool :=
  (Utf8.decode (decoded cs)).isSome

/-- Whether the name and the password can be sent apart from the address: the name
can be read, and when it is empty, so can the password. -/
def isSeparable (i : UserInfo) : Bool :=
  isReadable i.name && (!i.name.isEmpty || (i.password.map isReadable).getD false)

/-- What stands in the header for the name and the password: the two with a colon
between them. A password that cannot be read is left out. -/
def basic (i : UserInfo) : String :=
  let password := ((i.password.filter isReadable).map decoded).getD []
  "Basic " ++ String.ofList (Base64Url.padded (decoded i.name ++ 58 :: password))

example : basic ⟨"a%20b".toList, some "c?".toList⟩ = "Basic YSBiOmM/" := by decide +kernel

end UserInfo

/-- An address. -/
structure Url where
  scheme : List Char
  user : Option UserInfo
  host : Option Host
  port : Option Nat
  path : UrlPath
  query : Option (List Char)
  fragment : Option (List Char)
  deriving DecidableEq, Repr

namespace Url

/-- The schemes of the web with their ports. -/
def webSchemes : List (String × Nat) :=
  [("http", 80), ("https", 443), ("ws", 80), ("wss", 443), ("ftp", 21)]

/-- The usual port of a scheme of the web. -/
def usualPort (scheme : List Char) : Option Nat :=
  (webSchemes.find? fun s => s.1.toList == scheme).map (·.2)

/-- A text without the control characters and spaces at its ends and without
line breaks and tabs. -/
def clean (cs : List Char) : List Char :=
  let isEdge := fun c : Char => decide (c.toNat ≤ 0x20)
  ((((cs.dropWhile isEdge).reverse).dropWhile isEdge).reverse).filter fun c =>
    c ≠ '\t' ∧ c ≠ '\n' ∧ c ≠ '\r'

/-- The scheme in front of a colon, in lower case, and what follows the colon. -/
def scheme? (cs : List Char) : Option (List Char × List Char) :=
  let isPart := fun c : Char => c.isAlphanum || c == '+' || c == '-' || c == '.'
  match cs.takeWhile isPart, cs.dropWhile isPart with
  | a :: s, ':' :: r => if a.isAlpha then some ((a :: s).map Char.toLower, r) else none
  | _, _ => none

/-- Whether a character separates segments. -/
def isSlash (web : Bool) (c : Char) : Bool :=
  c == '/' || (web && c == '\\')

/-- The path, the query and the fragment of the part behind the host. -/
def sections (cs : List Char) : List Char × Option (List Char) × Option (List Char) :=
  let head := cs.takeWhile (· ≠ '#')
  let fragment := match cs.dropWhile (· ≠ '#') with
    | [] => none
    | _ :: f => some f
  let path := head.takeWhile (· ≠ '?')
  let query := match head.dropWhile (· ≠ '?') with
    | [] => none
    | _ :: q => some q
  (path, query, fragment)

/-- The address with a path, a query and a fragment. -/
def assemble (web : Bool) (scheme : List Char) (user : Option UserInfo) (host : Option Host)
    (port : Option Nat) (tail : List Char) : Url :=
  let (path, query, fragment) := sections tail
  { scheme, user, host, port
    path := .rooted (if !web && path.isEmpty then [] else UrlPath.segments web path)
    query := query.map (Percent.encode (if web then Percent.inQuery else Percent.inPlainQuery))
    fragment := fragment.map (Percent.encode Percent.inFragment) }

/-- What stands before the last at sign, if there is one, and what stands behind
it. -/
def cutUser (cs : List Char) : Option (List Char) × List Char :=
  match cs.reverse.dropWhile (· ≠ '@') with
  | [] => (none, cs)
  | _ :: r => (some r.reverse, (cs.reverse.takeWhile (· ≠ '@')).reverse)

/-- Cuts a host from the colon behind it; a colon between brackets does not count. -/
def cutPort (inside : Bool) : List Char → List Char × Option (List Char)
  | [] => ([], none)
  | c :: cs =>
    if c = ':' ∧ inside = false then ([], some cs)
    else
      let r := cutPort (if c = '[' then true else if c = ']' then false else inside) cs
      (c :: r.1, r.2)

/-- The number of a port; none inside when there are no digits, none when it is no
port. -/
def port? (cs : List Char) : Option (Option Nat) :=
  if cs.isEmpty then some none
  else match cs.mapM Decimal.digit? with
    | none => none
    | some ds => if Decimal.value ds < 0x10000 then some (some (Decimal.value ds)) else none

/-- The address whose host is at the front of the text. Only an address that is
none of the web may have an empty host, and that one has no port and no user. -/
def withHost (web : Bool) (scheme : List Char) (cs : List Char) : Option Url := do
  let isEnd := fun c : Char => isSlash web c || c == '?' || c == '#'
  let (named, place) := cutUser (cs.takeWhile (!isEnd ·))
  let user := named.bind UserInfo.ofText?
  let (hostText, portText) := cutPort false place
  let digits := (portText.getD []).takeWhile (· ≠ '\\')
  let tail := (portText.getD []).dropWhile (· ≠ '\\') ++ cs.dropWhile (!isEnd ·)
  if hostText.isEmpty ∧ (web ∨ portText.isSome ∨ user.isSome ∨ (named = some [] ∧ tail ≠ [])) then
    none
  else
    let host ← Host.parse web hostText
    let port ← port? digits
    let port := if port = usualPort scheme then none else port
    return assemble web scheme user (some host) port tail

/-- The address of a file on a host. A drive in front of the path is on this host,
whose name is empty. -/
def onHost (host : Host) (tail : List Char) : Url :=
  let u := assemble true "file".toList none (some host) none tail
  match u.path with
  | .rooted ss =>
    let (ss, drive) := UrlPath.ofFile ss
    { u with host := some (if drive then .name [] else host), path := .rooted ss }
  | .bare _ => u

/-- The address of a file. Where a drive stands in place of a host, it begins the
path. -/
def ofFile (cs : List Char) : Option Url :=
  let isEnd := fun c : Char => isSlash true c || c == '?' || c == '#'
  match cs with
  | a :: b :: r =>
    if isSlash true a && isSlash true b then
      let name := r.takeWhile (!isEnd ·)
      if UrlPath.isDrive name then some (onHost (.name []) r)
      else do
        let host ← if name.isEmpty then some (.name []) else Host.parse true name
        let host := if host = .name "localhost".toList then .name [] else host
        return onHost host (r.dropWhile (!isEnd ·))
    else some (onHost (.name []) cs)
  | _ => some (onHost (.name []) cs)

/-- The address that a text names. -/
def parse (s : String) : Option Url := do
  let (scheme, r) ← scheme? (clean s.toList)
  if (usualPort scheme).isSome then
    withHost true scheme (r.dropWhile (isSlash true))
  else if scheme = "file".toList then ofFile r
  else match r with
    | '/' :: '/' :: t => withHost false scheme t
    | '/' :: _ => return assemble false scheme none none none r
    | _ =>
      let (path, query, fragment) := sections r
      return {
        scheme, user := none, host := none, port := none
        path := .bare (Percent.encode Percent.isPlain path)
        query := query.map (Percent.encode Percent.inPlainQuery)
        fragment := fragment.map (Percent.encode Percent.inFragment) }

/-- Whether the address names a host. -/
def hasHost (u : Url) : Bool :=
  match u.host with
  | some (.name cs) => !cs.isEmpty
  | some _ => true
  | none => false

def isHttp (u : Url) : Bool := u.scheme == "http".toList

def isHttps (u : Url) : Bool := u.scheme == "https".toList

/-- The host as it stands in the address. -/
def hostText (u : Url) : List Char :=
  match u.host with
  | some h => h.text
  | none => []

/-- The part in front of the path. -/
def frontText (u : Url) : List Char :=
  u.scheme ++ ':' :: (match u.host with
    | some h => '/' :: '/' :: ((u.user.map UserInfo.text).getD [] ++ h.text ++ (match u.port with
      | some n => ':' :: Decimal.text n
      | none => []))
    | none => match u.path with
      | .rooted ([] :: _ :: _) => ['/', '.']
      | _ => [])

/-- A part with the character in front that begins it. -/
def marked (c : Char) : Option (List Char) → List Char
  | none => []
  | some cs => c :: cs

/-- The text of an address. -/
def text (u : Url) : String :=
  String.ofList (u.frontText ++ u.path.text ++ marked '?' u.query ++ marked '#' u.fragment)

/-- The address without the fragment, which is not sent. -/
def sent (u : Url) : Url :=
  { u with fragment := none }

/-- The address without the name and the password, where these can be sent apart
from it. -/
def anonymous (u : Url) : Url :=
  if (u.user.map UserInfo.isSeparable).getD false then { u with user := none } else u

/-- The header for the name and the password that are sent apart from the address. -/
def basic? (u : Url) : Option String :=
  (u.user.filter UserInfo.isSeparable).map UserInfo.basic

/-- A name and a value as they stand in a query. -/
def pairText (p : String × String) : List Char :=
  Percent.form p.1.toList ++ '=' :: Percent.form p.2.toList

/-- The address with further pairs in its query; an empty query is dropped. -/
def extend (pairs : List (String × String)) (u : Url) : Url :=
  let old := u.query.getD []
  let added := Text.join '&' (pairs.map pairText)
  let query := if old.isEmpty then added else if pairs.isEmpty then old else old ++ '&' :: added
  { u with query := if query.isEmpty then none else some query }

/-- Without pairs only an empty query changes. -/
theorem extend_nil (u : Url) (h : u.query ≠ some []) : u.extend [] = u := by
  cases u with
  | mk scheme user host port path query fragment =>
    cases query with
    | none => rfl
    | some q =>
      cases q with
      | nil => exact absurd rfl h
      | cons c q => rfl

end Url
end ProxyConsole
