/-
# What can be wrong with a JSON text

`Malformed` lists the ways in which a text is no JSON; `Mistake` adds the ways
in which a value is not of the form asked for. Each has one message. Who is shown
the message is shown behind it where in the text the mistake was met; that goes
with the text and not with the mistake, so it is given apart from it.

Key definitions: `Malformed.message`, `Mistake.message`, `Spot`, `Mistake.messageAt`.
-/
import ProxyConsole.Json.Basic
import ProxyConsole.Text.Quoted

namespace ProxyConsole

/-- A text that is no JSON. -/
inductive Malformed where
  | valueEnds
  | listEnds
  | objectEnds
  | stringEnds
  | noValue
  | noWord
  | noColon
  | noItemSeparator
  | noMemberSeparator
  | nameNotString
  | trailingComma
  | trailingText
  | badNumber
  | numberTooLarge
  | badEscape
  | controlCharacter
  | loneSurrogate
  | surrogateAlone
  | notUnicode
  | tooDeep
  deriving DecidableEq, Repr

namespace Malformed

def message : Malformed → String
  | valueEnds => "EOF while parsing a value"
  | listEnds => "EOF while parsing a list"
  | objectEnds => "EOF while parsing an object"
  | stringEnds => "EOF while parsing a string"
  | noValue => "expected value"
  | noWord => "expected ident"
  | noColon => "expected `:`"
  | noItemSeparator => "expected `,` or `]`"
  | noMemberSeparator => "expected `,` or `\x7d`"
  | nameNotString => "key must be a string"
  | trailingComma => "trailing comma"
  | trailingText => "trailing characters"
  | badNumber => "invalid number"
  | numberTooLarge => "number out of range"
  | badEscape => "invalid escape"
  | controlCharacter => "control character (\\u0000-\\u001F) found while parsing a string"
  | loneSurrogate => "lone leading surrogate in hex escape"
  | surrogateAlone => "unexpected end of hex escape"
  | notUnicode => "invalid unicode code point"
  | tooDeep => "recursion limit exceeded"

end Malformed

/-- A value that was found where another form was asked for. -/
inductive Found where
  | null
  | bool (b : Bool)
  | number (n : Number)
  | string (s : String)
  | array
  | object
  deriving DecidableEq, Repr

namespace Found

def describe : Found → String
  | null => "null"
  | bool b => "boolean `" ++ toString b ++ "`"
  | number (.integer n) => "integer `" ++ Decimal.intString n ++ "`"
  | number (.double x) => "floating point `" ++ String.ofList x.text ++ "`"
  | string s => "string " ++ Quoted.quote s
  | array => "sequence"
  | object => "map"

end Found

/-- Why a text does not decode. -/
inductive Mistake where
  | malformed (m : Malformed)
  | wrongType (found : Found) (expected : String)
  | outOfRange (n : Int) (expected : String)
  | wrongLength (length : Nat) (expected : String)
  | unknownName (name : String) (expected : String)
  | missing (field : String)
  | duplicate (field : String)
  deriving DecidableEq, Repr

namespace Mistake

def message : Mistake → String
  | malformed m => m.message
  | wrongType found expected => "invalid type: " ++ found.describe ++ ", expected " ++ expected
  | outOfRange n expected =>
    "invalid value: integer `" ++ Decimal.intString n ++ "`, expected " ++ expected
  | wrongLength n expected =>
    "invalid length " ++ Decimal.intString n ++ ", expected " ++ expected
  | unknownName name expected => "unknown variant `" ++ name ++ "`, expected " ++ expected
  | missing field => "missing field `" ++ field ++ "`"
  | duplicate field => "duplicate field `" ++ field ++ "`"

end Mistake

/-- A place in a text. -/
structure Spot where
  line : Nat
  column : Nat
  deriving DecidableEq, Repr

namespace Spot

/-- The place as it stands behind a message, where one is known. -/
def suffix : Option Spot → String
  | some s => " at line " ++ Decimal.intString s.line ++ " column " ++ Decimal.intString s.column
  | none => ""

end Spot

/-- The message of a mistake with the place in the text at which it was met. -/
def Mistake.messageAt (spot : Option Spot) (m : Mistake) : String :=
  m.message ++ Spot.suffix spot
end ProxyConsole
