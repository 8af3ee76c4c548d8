/-
# Percent-encoded text

A byte is written as a percent sign and two digits of base sixteen. Encoding
leaves the characters as they are that may stand where the text goes; what is
already encoded stays so.

Key definitions: `Percent.encode`, `Percent.decode`, `Percent.form`.
Key theorem: `Percent.encode_eq_self`.
-/
import ProxyConsole.Number.Hex
import ProxyConsole.Text.Utf8

namespace ProxyConsole
namespace Percent

/-- A byte as it is encoded. -/
def byte (b : UInt8) : List Char :=
  ['%', Hex.upper (b.toNat / 16), Hex.upper (b.toNat % 16)]

/-- A character, encoded unless it may stand there. -/
def char (keep : Char → Bool) (c : Char) : List Char :=
  if keep c then [c] else (Utf8.encode [c]).flatMap byte

/-- A text in which only the characters of `keep` stand as they are. -/
def encode (keep : Char → Bool) (cs : List Char) : List Char :=
  cs.flatMap (char keep)

/-- The bytes of a text with the encoded ones in place of their encoding; a
percent sign without two digits behind it stands for itself. -/
def decode : List UInt8 → List UInt8
  | [] => []
  | 37 :: a :: b :: bs =>
    match Hex.value? a.toNat, Hex.value? b.toNat with
    | some x, some y => UInt8.ofNat (16 * x + y) :: decode bs
    | _, _ => 37 :: decode (a :: b :: bs)
  | c :: bs => c :: decode bs

/-- A text of nothing but characters that may stand there is encoded as it is. -/
theorem encode_eq_self {keep : Char → Bool} : ∀ {cs : List Char}, (∀ c ∈ cs, keep c = true) →
    encode keep cs = cs
  | [], _ => rfl
  | c :: cs, h => by
    rw [encode, List.flatMap_cons, char, if_pos (h c (by simp))]
    exact congrArg (c :: ·) (encode_eq_self fun d hd => h d (by simp [hd]))

/-! ### What may stand where -/

/-- A character of ASCII that is no control character. -/
def isPlain (c : Char) : Bool :=
  0x20 ≤ c.toNat && c.toNat < 0x7F

/-- What may stand in a path. -/
def inPath (c : Char) : Bool :=
  isPlain c && !" \"#<>?`\x7b\x7d".toList.contains c

/-- What may stand in a name or a password in front of a host. -/
def inUserInfo (c : Char) : Bool :=
  inPath c && !"/:;=@[\\]^|".toList.contains c

/-- What may stand in the query of an address of the web. -/
def inQuery (c : Char) : Bool :=
  isPlain c && !" \"#<>'".toList.contains c

/-- What may stand in the query of another address. -/
def inPlainQuery (c : Char) : Bool :=
  isPlain c && !" \"#<>".toList.contains c

/-- What may stand in a fragment. -/
def inFragment (c : Char) : Bool :=
  isPlain c && !" \"<>`".toList.contains c

/-- What stands as it is in a form. -/
def inForm (c : Char) : Bool :=
  c.isAlphanum || "*-._".toList.contains c

/-- A text as it stands in a form: a space becomes a plus sign. -/
def form (cs : List Char) : List Char :=
  cs.flatMap fun c => if c = ' ' then ['+'] else char inForm c

end Percent
end ProxyConsole
