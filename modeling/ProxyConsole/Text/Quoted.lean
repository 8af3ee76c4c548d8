/-
# Quoted text

A quoted text stands between double quotes; quotes, backslashes, the usual
control characters and every character that shows nothing by itself are written
as escapes.

Key definition: `Quoted.encode`.
-/
import ProxyConsole.Text.Hidden

namespace ProxyConsole
namespace Quoted

/-- A number in base sixteen, in lower case. -/
def hexDigits (n : Nat) : List Char :=
  Nat.toDigits 16 n

/-- The code point of a character between braces, as an escape. -/
def codePoint (c : Char) : List Char :=
  '\\' :: 'u' :: '\x7b' :: (hexDigits c.toNat ++ ['\x7d'])

/-- A character as it stands between the quotes. -/
def escape (c : Char) : List Char :=
  if c = '"' then ['\\', '"']
  else if c = '\\' then ['\\', '\\']
  else if c = '\n' then ['\\', 'n']
  else if c = '\r' then ['\\', 'r']
  else if c = '\t' then ['\\', 't']
  else if c.toNat = 0 then ['\\', '0']
  else if c.toNat < 0x20 then codePoint c
  else if c.toNat < 0x7F then [c]
  else if Text.isHidden c then codePoint c
  else [c]

/-- A text between quotes. -/
def encode (cs : List Char) : List Char :=
  '"' :: (cs.flatMap escape ++ ['"'])

/-- A string between quotes. -/
def quote (s : String) : String :=
  String.ofList (encode s.toList)

end Quoted
end ProxyConsole
