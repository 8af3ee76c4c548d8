/-
# JSON values

A JSON value and its compact text: no blanks, members in the order of the
object, and in strings only quotes, backslashes and control characters written
as escapes.

Key definitions: `Json`, `Json.compact`, `Json.member?`, `Json.insert`.
-/
import ProxyConsole.Json.Number
import ProxyConsole.Number.Hex
import ProxyConsole.Text.Utf8

namespace ProxyConsole

/-- A JSON value. -/
inductive Json where
  | null
  | bool (b : Bool)
  | number (n : Number)
  | string (s : String)
  | array (items : List Json)
  | object (members : List (String × Json))
  deriving Repr, Inhabited

namespace Json

/-- An integer as a value. -/
def int (n : Int) : Json := number (.integer n)

/-- The value of a member, none when the value is no object or has no member of
that name. -/
def member? (name : String) : Json → Option Json
  | object members => (members.find? fun m => m.1 == name).map (·.2)
  | _ => none

/-- The text of a string value. -/
def string? : Json → Option String
  | string s => some s
  | _ => none

def isArray : Json → Bool
  | array _ => true
  | _ => false

/-- The members with a value for `name`: it takes the place of the value that
was there, or stands at the end. -/
def insert (name : String) (v : Json) : List (String × Json) → List (String × Json)
  | [] => [(name, v)]
  | m :: ms => if m.1 = name then (name, v) :: ms else m :: insert name v ms

/-- A character as it stands in a string. -/
def escape (c : Char) : List Char :=
  if c = '"' then ['\\', '"']
  else if c = '\\' then ['\\', '\\']
  else if 0x20 ≤ c.toNat then [c]
  else if c = '\n' then ['\\', 'n']
  else if c = '\r' then ['\\', 'r']
  else if c = '\t' then ['\\', 't']
  else if c.toNat = 8 then ['\\', 'b']
  else if c.toNat = 12 then ['\\', 'f']
  else ['\\', 'u', '0', '0', Hex.lower (c.toNat / 16), Hex.lower (c.toNat % 16)]

/-- A string between quotes. -/
def quoted (s : String) : List Char :=
  '"' :: (s.toList.flatMap escape ++ ['"'])

mutual

/-- The compact text of a value. -/
def compact : Json → List Char
  | null => ['n', 'u', 'l', 'l']
  | bool true => ['t', 'r', 'u', 'e']
  | bool false => ['f', 'a', 'l', 's', 'e']
  | number n => n.text
  | string s => quoted s
  | array items => '[' :: (compactItems items ++ [']'])
  | object members => '\x7b' :: (compactMembers members ++ ['\x7d'])

/-- The items of an array with commas between them. -/
def compactItems : List Json → List Char
  | [] => []
  | [v] => compact v
  | v :: vs => compact v ++ ',' :: compactItems vs

/-- The members of an object with commas between them. -/
def compactMembers : List (String × Json) → List Char
  | [] => []
  | [(k, v)] => quoted k ++ ':' :: compact v
  | (k, v) :: ms => quoted k ++ ':' :: (compact v ++ ',' :: compactMembers ms)

end

/-- The compact text as a string. -/
def text (v : Json) : String :=
  String.ofList v.compact

/-- The bytes of the compact text. -/
def bytes (v : Json) : List UInt8 :=
  Utf8.encode v.compact

end Json
end ProxyConsole
