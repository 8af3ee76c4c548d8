/-
# Values read off an outline

Each reader walks an outline from left to right and stops at the first mistake.
A form with named fields is read from an object, where unknown names are
skipped and a known name may stand once, or from an array of its fields in
order; a field that is not required may be absent, and the first required one
that is missing is reported after the end of the object.

Key definitions: `StringBody.text`, `Outline.skip`, `Outline.toJson`,
`Form.collect`, `Decode.document`.
-/
import ProxyConsole.Json.Outline
import ProxyConsole.Json.Mistake

namespace ProxyConsole

/-- What a flaw in a string means. -/
def StringEnd.mistake : StringEnd → Option Malformed
  | .closed => none
  | .ended => some .stringEnds
  | .control => some .controlCharacter
  | .badEscape => some .badEscape
  | .badHex => some .badEscape

namespace StringBody

/-- The first unit of a pair. -/
def isLeading (u : Nat) : Bool := 0xD800 ≤ u && u ≤ 0xDBFF

/-- The second unit of a pair. -/
def isTrailing (u : Nat) : Bool := 0xDC00 ≤ u && u ≤ 0xDFFF

/-- The character of a pair of units. -/
def pair (u v : Nat) : Char :=
  Char.ofNat (0x10000 + (u - 0xD800) * 0x400 + (v - 0xDC00))

/-- The mistake where a leading unit is followed by no unit. -/
def unpaired (stop : StringEnd) : List Piece → Malformed
  | [] => match stop with
    | .ended => .stringEnds
    | .badHex => .badEscape
    | _ => .surrogateAlone
  | _ => .surrogateAlone

/-- The bytes that the pieces of a string stand for. -/
def bytesOf (stop : StringEnd) : List Piece → Except Malformed (List UInt8)
  | [] => match stop.mistake with
    | none => .ok []
    | some m => .error m
  | .byte b :: ps => (bytesOf stop ps).map (b :: ·)
  | .unit u :: .unit v :: ps =>
    if isTrailing u then .error .loneSurrogate
    else if isLeading u then
      if isTrailing v then (bytesOf stop ps).map (Utf8.encode [pair u v] ++ ·)
      else .error .loneSurrogate
    else (bytesOf stop (.unit v :: ps)).map (Utf8.encode [Char.ofNat u] ++ ·)
  | .unit u :: ps =>
    if isTrailing u then .error .loneSurrogate
    else if isLeading u then .error (unpaired stop ps)
    else (bytesOf stop ps).map (Utf8.encode [Char.ofNat u] ++ ·)

/-- The text of a string. -/
def text (t : StringBody) : Except Malformed String :=
  match bytesOf t.stop t.pieces with
  | .error m => .error m
  | .ok bs => match Utf8.toString? bs with
    | some s => .ok s
    | none => .error .notUnicode

end StringBody

namespace Flaw

/-- What a flaw means where a value is read. -/
def mistake : Flaw → Malformed
  | noValue => .noValue
  | ended => .valueEnds
  | wordEnded => .valueEnds
  | badWord => .noWord
  | badNumeral => .badNumber
  | numeralEnded => .valueEnds

/-- What a flaw means where a value is skipped. -/
def skipMistake : Flaw → Malformed
  | numeralEnded => .badNumber
  | f => f.mistake

end Flaw

namespace ItemsEnd

/-- What the end of an array means where its items are read. -/
def mistake : ItemsEnd → Option Malformed
  | closed => none
  | ended => some .listEnds
  | endedAfterComma => some .valueEnds
  | closedAfterComma => some .trailingComma
  | unseparated => some .noItemSeparator

/-- What the end of an array means where no further item is looked for. -/
def finalMistake : ItemsEnd → Option Malformed
  | closed => none
  | ended => some .listEnds
  | closedAfterComma => some .trailingComma
  | endedAfterComma => some .trailingText
  | unseparated => some .trailingText

/-- What the end of an array means where it is skipped. -/
def skipMistake : ItemsEnd → Option Malformed
  | closedAfterComma => some .noValue
  | e => e.mistake

end ItemsEnd

namespace MembersEnd

/-- What the end of an object means behind a name that is well formed. -/
def mistake : MembersEnd → Option Malformed
  | closed => none
  | ended => some .objectEnds
  | endedAfterComma => some .valueEnds
  | closedAfterComma => some .trailingComma
  | unseparated => some .noMemberSeparator
  | notAName _ => some .nameNotString
  | nameOnly _ textEnds => some (if textEnds then .objectEnds else .noColon)

/-- What the end of an object means where it is skipped. -/
def skipMistake : MembersEnd → Option Malformed
  | endedAfterComma => some .objectEnds
  | closedAfterComma => some .nameNotString
  | nameOnly name textEnds => name.stop.mistake.or ((nameOnly name textEnds).mistake)
  | e => e.mistake

end MembersEnd

namespace Decode

/-- Nothing, or the mistake that there is. -/
def orElse : Option Malformed → Except Malformed Unit
  | none => .ok ()
  | some m => .error m

/-- A reader's result with the mistake of a text that is no JSON. -/
def wellFormed (r : Except Malformed α) : Except Mistake α :=
  r.mapError .malformed

/-- The number of a numeral. -/
def number (n : Numeral) : Except Malformed Number :=
  match n.value with
  | some v => .ok v
  | none => .error .numberTooLarge

end Decode

namespace Outline

mutual

/-- Reads past a value of any form; the text of its strings is not looked at. -/
def skip : Outline → Except Malformed Unit
  | leaf (.string t) => Decode.orElse t.stop.mistake
  | leaf (.broken f) => .error f.skipMistake
  | leaf _ => .ok ()
  | array items stop => do
    skipItems items
    Decode.orElse stop.skipMistake
  | object members stop => do
    skipMembers members
    Decode.orElse stop.skipMistake

def skipItems : List Outline → Except Malformed Unit
  | [] => .ok ()
  | o :: os => do
    skip o
    skipItems os

def skipMembers : List (StringBody × Outline) → Except Malformed Unit
  | [] => .ok ()
  | (name, o) :: ms => do
    Decode.orElse name.stop.mistake
    skip o
    skipMembers ms

end

/-- How many arrays and objects may stand within one another. -/
def maxDepth : Nat := 127

mutual

/-- The value of an outline in which at most `depth` arrays and objects stand
within one another. Of members of one name the last counts. -/
def toJson (depth : Nat) : Outline → Except Malformed Json
  | leaf .null => .ok .null
  | leaf (.bool b) => .ok (.bool b)
  | leaf (.number n) => (Decode.number n).map .number
  | leaf (.string t) => t.text.map .string
  | leaf (.broken f) => .error f.mistake
  | array items stop =>
    match depth with
    | 0 => .error .tooDeep
    | d + 1 => do
      let vs ← toJsonItems d items
      Decode.orElse stop.mistake
      return .array vs
  | object members stop =>
    match depth with
    | 0 => .error .tooDeep
    | d + 1 => do
      let ms ← toJsonMembers d [] members
      match stop with
      | .nameOnly name _ => discard name.text
      | _ => pure ()
      Decode.orElse stop.mistake
      return .object ms

def toJsonItems (depth : Nat) : List Outline → Except Malformed (List Json)
  | [] => .ok []
  | o :: os => do
    let v ← toJson depth o
    return v :: (← toJsonItems depth os)

def toJsonMembers (depth : Nat) (got : List (String × Json)) :
    List (StringBody × Outline) → Except Malformed (List (String × Json))
  | [] => .ok got
  | (name, o) :: ms => do
    let k ← name.text
    let v ← toJson depth o
    toJsonMembers depth (Json.insert k v got) ms

end

end Outline

/-- The mistake of a value that begins like this where another form is asked for. -/
def Head.refusal (expected : String) : Head → Mistake
  | leaf .null => .wrongType .null expected
  | leaf (.bool b) => .wrongType (.bool b) expected
  | leaf (.number n) => match Decode.number n with
    | .ok v => .wrongType (.number v) expected
    | .error m => .malformed m
  | leaf (.string t) => match t.text with
    | .ok s => .wrongType (.string s) expected
    | .error m => .malformed m
  | leaf (.broken f) => .malformed f.mistake
  | array => .wrongType .array expected
  | object => .wrongType .object expected

/-- The mistake of a value where another form is asked for. -/
def Outline.refusal (o : Outline) (expected : String) : Mistake :=
  o.head.refusal expected

namespace Decode

/-- A string. -/
def string : Outline → Except Mistake String
  | .leaf (.string t) => wellFormed t.text
  | o => .error (o.refusal "a string")

/-- A truth value. -/
def bool : Outline → Except Mistake Bool
  | .leaf (.bool b) => .ok b
  | o => .error (o.refusal "a boolean")

/-- An integer from `lo` up to `hi`, named `expected`. -/
def integer (lo hi : Int) (expected : String) : Outline → Except Mistake Int
  | .leaf (.number n) => do
    match ← wellFormed (number n) with
    | .integer i => if lo ≤ i ∧ i ≤ hi then .ok i else .error (.outOfRange i expected)
    | .double x => .error (.wrongType (.number (.double x)) expected)
  | o => .error (o.refusal expected)

/-- A signed integer of 64 bits. -/
def int64 (o : Outline) : Except Mistake Int64 :=
  (integer (-0x8000000000000000) 0x7FFFFFFFFFFFFFFF "i64" o).map Int64.ofInt

/-- An unsigned integer of 16 bits. -/
def uint16 (o : Outline) : Except Mistake UInt16 :=
  (integer 0 0xFFFF "u16" o).map fun i => UInt16.ofNat i.toNat

/-- A value or `null`. -/
def optional (read : Outline → Except Mistake α) : Outline → Except Mistake (Option α)
  | .leaf .null => .ok none
  | o => (read o).map some

/-- The values of outlines, in order. -/
def each (read : Outline → Except Mistake α) : List Outline → Except Mistake (List α)
  | [] => .ok []
  | o :: os => do
    let v ← read o
    return v :: (← each read os)

/-- A list of values. -/
def list (read : Outline → Except Mistake α) : Outline → Except Mistake (List α)
  | .array items stop => do
    let vs ← each read items
    wellFormed (orElse stop.mistake)
    return vs
  | o => .error (o.refusal "a sequence")

/-- `null` where nothing else may stand. -/
def unit : Outline → Except Mistake Unit
  | .leaf .null => .ok ()
  | o => .error (o.refusal "unit")

/-- A value of any form. -/
def value (depth : Nat) (o : Outline) : Except Mistake Json :=
  wellFormed (o.toJson depth)

end Decode

/-- What a form asks of a field: its name, what its value has to be, and whether
it has to be there. -/
structure FieldRule where
  name : String
  check : Outline → Except Mistake Unit
  required : Bool

/-- The fields that a text gives, each with its value. -/
abbrev Given := List (String × Outline)

namespace Given

/-- The value of a field, none when the text does not give it. -/
def value? (g : Given) (name : String) : Option Outline :=
  (g.find? fun f => f.1 == name).map (·.2)

/-- Whether the text gives a field. -/
def has (g : Given) (name : String) : Bool :=
  g.any fun f => f.1 == name

end Given

/-- A field with values of one type; it may be absent when it has a default. -/
structure Field (α : Type) where
  name : String
  read : Outline → Except Mistake α
  default : Option α

namespace Field

/-- What a form asks of the field. -/
def rule (f : Field α) : FieldRule :=
  ⟨f.name, fun o => (f.read o).map fun _ => (), f.default.isNone⟩

/-- The value of the field among those that a text gives. -/
def get (f : Field α) (g : Given) : Except Mistake α :=
  match g.value? f.name with
  | some o => f.read o
  | none => match f.default with
    | some a => .ok a
    | none => .error (.missing f.name)

end Field

/-- A form: a name and fields in their order. -/
structure Form where
  name : String
  fields : List FieldRule

namespace Form

/-- The field of a name. -/
def field? (form : Form) (name : String) : Option FieldRule :=
  form.fields.find? fun f => f.name == name

/-- A second value for a field of the form. -/
def checkOnce (form : Form) (got : Given) (name : String) : Except Mistake Unit :=
  if (form.field? name).isSome && got.has name then .error (.duplicate name) else .ok ()

/-- The fields that the members of an object give, in addition to `got`. -/
def collectMembers (form : Form) (got : Given) :
    List (StringBody × Outline) → Except Mistake Given
  | [] => .ok got
  | (key, o) :: ms => do
    let name ← Decode.wellFormed key.text
    form.checkOnce got name
    match form.field? name with
    | none => do
      Decode.wellFormed o.skip
      collectMembers form got ms
    | some f => do
      f.check o
      collectMembers form (got ++ [(name, o)]) ms

/-- What the end of an object means behind the fields `got`. -/
def checkEnd (form : Form) (got : Given) (stop : MembersEnd) : Except Mistake Unit := do
  match stop with
  | .nameOnly key _ => form.checkOnce got (← Decode.wellFormed key.text)
  | _ => pure ()
  Decode.wellFormed (Decode.orElse stop.mistake)

/-- The first required field of `fields` that is not among `got`. -/
def checkMissing (got : Given) (fields : List FieldRule) : Except Mistake Unit :=
  match fields.find? fun f => f.required && !got.has f.name with
  | some f => .error (.missing f.name)
  | none => .ok ()

/-- The number of fields in words. -/
def size (form : Form) : String :=
  "struct " ++ form.name ++ " with " ++ Decimal.intString form.fields.length ++
    (if form.fields.length = 1 then " element" else " elements")

/-- The first required one of the fields that an array of `length` items leaves out. -/
def checkLength (form : Form) (length : Nat) : List FieldRule → Except Mistake Unit
  | [] => .ok ()
  | f :: fs =>
    if f.required then .error (.wrongLength length form.size) else form.checkLength (length + 1) fs

/-- The fields that the items of an array give. -/
def collectItems (form : Form) (stop : ItemsEnd) (got : Given) :
    List FieldRule → List Outline → Except Mistake Given
  | [], [] => do
    Decode.wellFormed (Decode.orElse stop.finalMistake)
    return got
  | [], _ :: _ => .error (.malformed .trailingText)
  | f :: fs, [] => do
    Decode.wellFormed (Decode.orElse stop.mistake)
    form.checkLength got.length (f :: fs)
    return got
  | f :: fs, o :: os => do
    f.check o
    collectItems form stop (got ++ [(f.name, o)]) fs os

/-- The fields that a text gives. -/
def collect (form : Form) : Outline → Except Mistake Given
  | .object members stop => do
    let got ← form.collectMembers [] members
    form.checkEnd got stop
    checkMissing got form.fields
    return got
  | .array items stop => form.collectItems stop [] form.fields items
  | o => .error (o.refusal ("struct " ++ form.name))

/-- The value that `build` makes of the fields. -/
def read (form : Form) (build : Given → Except Mistake α) (o : Outline) : Except Mistake α := do
  build (← form.collect o)

end Form

namespace Decode

/-- A value that is the whole of a text. -/
def document (read : Outline → Except Mistake α) (bs : List UInt8) : Except Mistake α := do
  let o := Outline.read bs
  let v ← read o.1
  if o.2.isEmpty then return v else .error (.malformed .trailingText)

/-- The JSON value of a text. -/
def json (bs : List UInt8) : Except Mistake Json :=
  document (value Outline.maxDepth) bs

end Decode
end ProxyConsole
