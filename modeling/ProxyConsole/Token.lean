/-
# Session tokens

A token is a text of three segments with dots between them. The middle segment
is Base64 for URLs and holds the claims as JSON; padding behind it is allowed.
Only the claims are read: the signature is the server's affair. A token without
an expiry never expires.

Key definitions: `Claims`, `Token`, `Token.read`, `Token.expiredAt`.
Key theorem: `Token.read_trimmed`.
-/
import ProxyConsole.Json.Decode
import ProxyConsole.Text.Base64Url
import ProxyConsole.Text.Blank
import ProxyConsole.Text.Split
import ProxyConsole.Calendar

namespace ProxyConsole

/-- What a token says: when it was issued, when it expires, and for whom it was
issued. -/
structure Claims where
  iat : Option Int64
  exp : Option Int64
  id : Option Json
  deriving Repr, Inhabited

namespace Claims

/-- When the token was issued. -/
def iatField : Field (Option Int64) := ⟨"iat", Decode.optional Decode.int64, some none⟩

/-- When the token expires. -/
def expField : Field (Option Int64) := ⟨"exp", Decode.optional Decode.int64, some none⟩

/-- For whom the token was issued; a value of any form, within the claims. -/
def idField : Field (Option Json) :=
  ⟨"id", Decode.optional (Decode.value (Outline.maxDepth - 1)), some none⟩

def form : Form := ⟨"TokenClaims", [iatField.rule, expField.rule, idField.rule]⟩

/-- The claims that an outline holds. -/
def read : Outline → Except Mistake Claims :=
  form.read fun g => do
    return { iat := ← iatField.get g, exp := ← expField.get g, id := ← idField.get g }

end Claims

/-- A token: the text that is sent, without blank characters at its ends, and
its claims. -/
structure Token where
  text : String
  claims : Claims
  deriving Repr, Inhabited

/-- Why a text is no token. -/
inductive TokenFlaw where
  /-- Not three segments, or an empty middle one. -/
  | malformed
  | encoding (f : Base64Url.Flaw)
  | claims (m : Mistake)
  deriving DecidableEq, Repr

namespace TokenFlaw

/-- The message, with the place in the claims where there is a mistake in them. -/
def messageAt (spot : Option Spot) : TokenFlaw → String
  | malformed => "token must have three dot-separated segments"
  | encoding f => "claims segment is not valid base64url: " ++ f.message
  | claims m => "claims segment is not a JSON object: " ++ m.messageAt spot

/-- The message without a place. -/
def message (f : TokenFlaw) : String :=
  f.messageAt none

end TokenFlaw

namespace Token

/-- A segment without the padding behind it. -/
def unpadded (segment : List Char) : List Char :=
  (segment.reverse.dropWhile (· == '=')).reverse

/-- The claims segment of a text, when it has three segments and that one is not
empty. -/
def claimsSegment? (cs : List Char) : Option (List Char) :=
  match Text.split '.' cs with
  | [_, p, _] => if p.isEmpty then none else some p
  | _ => none

/-- The claims that a segment holds. -/
def claimsOf (segment : List Char) : Except TokenFlaw Claims := do
  let bs ← (Base64Url.decode (Utf8.encode (unpadded segment))).mapError .encoding
  (Decode.document Claims.read bs).mapError .claims

/-- The token of a text; blank characters at its ends do not count. -/
def read (s : String) : Except TokenFlaw Token :=
  match claimsSegment? (Text.trim s.toList) with
  | none => .error .malformed
  | some p => (claimsOf p).map (⟨Text.trimmed s, ·⟩)

/-- The token of a text, none when it is no token. -/
def read? (s : String) : Option Token :=
  (read s).toOption

/-- Whether the token has expired at an instant; its expiry is the first such
instant. -/
def expiredAt (t : Token) (now : Int64) : Bool :=
  match t.claims.exp with
  | some e => e ≤ now
  | none => false

/-- When the token was issued. -/
def issuedAt (t : Token) : Option String :=
  t.claims.iat.bind fun s => Calendar.text? s.toInt

/-- When the token expires. -/
def expiresAt (t : Token) : Option String :=
  t.claims.exp.bind fun s => Calendar.text? s.toInt

/-- The blank characters at the ends of a text do not matter. -/
theorem read_trimmed (s : String) : read (Text.trimmed s) = read s := by
  simp only [read, Text.trimmed, String.toList_ofList, Text.trim_trim]

/-- The text of a token is trimmed. -/
theorem text_of_read {s : String} {t : Token} (h : read s = .ok t) : t.text = Text.trimmed s := by
  unfold read at h
  split at h
  · cases h
  · next p _ =>
    cases hc : claimsOf p with
    | error f => simp [hc, Except.map] at h
    | ok c =>
      rw [hc] at h
      cases h
      rfl

end Token
end ProxyConsole
