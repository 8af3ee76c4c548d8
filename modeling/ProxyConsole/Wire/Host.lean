/-
# Hosts

The host of an address of the web is a name in ASCII or a number: a name whose
last label is a number is an address of four bytes, and one in brackets an
address of eight words. A host of another address is taken as it is.

Key definitions: `Host`, `Host.parse`, `Host.text`.
-/
import ProxyConsole.Wire.Percent
import ProxyConsole.Wire.Domain.Name
import ProxyConsole.Text.Split

namespace ProxyConsole

/-- The host of an address. -/
inductive Host where
  | name (text : List Char)
  /-- An address of four bytes. -/
  | bytes (n : Nat)
  /-- An address of eight words of 16 bits. -/
  | words (ws : List Nat)
  deriving DecidableEq, Repr

namespace Host

/-- A number to a base from 2 to 16; a text without digits is none. -/
def number? (base : Nat) (cs : List Char) : Option Nat :=
  if cs.isEmpty then none
  else cs.foldl (fun n c => do
    let d ← Hex.value? c.toNat
    if d < base then some ((← n) * base + d) else none) (some 0)

/-- A part of an address of four bytes: a number to the base 10, to the base 8
behind a zero, or to the base 16 behind `0x`. -/
def part? (cs : List Char) : Option Nat :=
  match cs with
  | '0' :: 'x' :: ds | '0' :: 'X' :: ds => if ds.isEmpty then some 0 else number? 16 ds
  | '0' :: d :: ds => number? 8 (d :: ds)
  | ds => number? 10 ds

/-- The labels of a name without the empty one behind a last dot. -/
def labels (cs : List Char) : List (List Char) :=
  let ls := Text.split '.' cs
  if 1 < ls.length ∧ ls.getLast? = some [] then ls.dropLast else ls

/-- Whether the last label of a name is a number. -/
def endsInNumber (cs : List Char) : Bool :=
  match (labels cs).getLast? with
  | none => false
  | some l => (!l.isEmpty && l.all Char.isDigit) ||
    (match l with
      | '0' :: 'x' :: ds | '0' :: 'X' :: ds => ds.isEmpty || (number? 16 ds).isSome
      | _ => false)

/-- The number whose parts are all bytes but for the last, which fills the rest. -/
def join? (parts : List Nat) : Option Nat :=
  match parts.reverse with
  | [] => none
  | last :: rest =>
    if 4 < parts.length ∨ rest.any (255 < ·) ∨ Nat.pow 256 (4 - rest.length) ≤ last then none
    else some ((rest.reverse.zipIdx.foldl (fun n p => n + p.1 * Nat.pow 256 (3 - p.2)) 0) + last)

/-- The address of four bytes that a name stands for. -/
def bytes? (cs : List Char) : Option Host :=
  (((labels cs).mapM part?).bind join?).map bytes

/-- A word of an address of eight: up to four digits of base 16. -/
def word? (cs : List Char) : Option Nat :=
  if cs.length ≤ 4 then number? 16 cs else none

/-- A byte in decimal digits that do not begin with a zero. -/
def byte? (cs : List Char) : Option Nat := do
  let n ← number? 10 cs
  if n ≤ 255 ∧ (cs.length = 1 ∨ cs.head? ≠ some '0') then some n else none

/-- The two words that four bytes with dots between them stand for. -/
def dotted? (cs : List Char) : Option (List Nat) :=
  match (Text.split '.' cs).mapM byte? with
  | some [a, b, c, d] => some [a * 256 + b, c * 256 + d]
  | _ => none

/-- Words with colons between them; the last two may be written as four bytes. -/
def words? (cs : List Char) : Option (List Nat) :=
  if cs.isEmpty then some []
  else
    let gs := Text.split ':' cs
    let last := gs.getLast?.getD []
    if last.contains '.' then do
      let ws ← gs.dropLast.mapM word?
      return ws ++ (← dotted? last)
    else gs.mapM word?

/-- The text before and after the first two colons in a row. -/
def cut : List Char → Option (List Char × List Char)
  | ':' :: ':' :: cs => some ([], cs)
  | [] => none
  | c :: cs => (cut cs).map fun p => (c :: p.1, p.2)

/-- The address of eight words that stands between brackets; two colons in a row
stand for the words that are missing. -/
def wide? (cs : List Char) : Option Host :=
  match cut cs with
  | none => do
    let ws ← words? cs
    if ws.length = 8 then some (words ws) else none
  | some (l, r) => do
    let ls ← if l.contains '.' then none else words? l
    let rs ← words? r
    if ls.length + rs.length < 8 then
      some (words (ls ++ List.replicate (8 - ls.length - rs.length) 0 ++ rs))
    else none

/-- A character that no name of the web may hold. -/
def isForbidden (c : Char) : Bool :=
  c.toNat ≤ 0x20 || c.toNat == 0x7F || "#%/:<>?@[\\]^|".toList.contains c

/-- A character that no host may hold. -/
def isForbiddenAnywhere (c : Char) : Bool :=
  "\t\n\r #/:<>?@[\\]^|".toList.contains c || c.toNat == 0

/-- The host of an address of the web. -/
def ofName? (cs : List Char) : Option Host := do
  let decoded ← Utf8.decode (Percent.decode (Utf8.encode cs))
  let name ← Domain.name? decoded
  if name.isEmpty ∨ name.any isForbidden then none
  else if endsInNumber name then bytes? name
  else some (Host.name name)

/-- The host that a text names; `web` tells whether the address is one of the web. -/
def parse (web : Bool) (cs : List Char) : Option Host :=
  match cs with
  | '[' :: r => if r.getLast? = some ']' then wide? r.dropLast else none
  | _ =>
    if web then ofName? cs
    else if cs.any isForbiddenAnywhere then none
    else some (name (Percent.encode Percent.isPlain cs))

/-- The start and length of the longest run of zeros, the first of several. -/
def longestRun : List Nat → Nat → Nat × Nat → Nat × Nat
  | [], _, best => best
  | w :: ws, i, best =>
    let n := ((w :: ws).takeWhile (· == 0)).length
    longestRun ws (i + 1) (if best.2 < n then (i, n) else best)

/-- A number in base sixteen, in lower case. -/
def hex (n : Nat) : List Char :=
  Nat.toDigits 16 n

/-- Words with colons between them; the longest run of two zeros or more is left
out. -/
def wordsText (ws : List Nat) : List Char :=
  let run := longestRun ws 0 (0, 1)
  if 1 < run.2 then
    Text.join ':' ((ws.take run.1).map hex) ++ [':', ':'] ++
      Text.join ':' ((ws.drop (run.1 + run.2)).map hex)
  else Text.join ':' (ws.map hex)

def text : Host → List Char
  | name cs => cs
  | bytes n =>
    Text.join '.' ([n / 0x1000000, n / 0x10000 % 256, n / 256 % 256, n % 256].map Decimal.text)
  | words ws => '[' :: (wordsText ws ++ [']'])

end Host
end ProxyConsole
