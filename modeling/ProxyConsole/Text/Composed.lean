/-
# Composed texts

Texts that look alike are brought to one form: every composed character is taken
apart, the marks behind a starter are put in the order of their classes, and
then each starter is composed with what follows it, as far as no mark of the
same or a greater class stands between. ASCII is in that form.

Key definition: `Text.composed`.
-/
import ProxyConsole.Text.CombiningClass
import ProxyConsole.Text.Composition

namespace ProxyConsole
namespace Text

/-- The characters that a composed one stands for, its parts taken apart `depth`
times. -/
def expand : Nat → Char → List Char
  | 0, c => [c]
  | depth + 1, c =>
    match parts? c with
    | some (a, b) => expand depth a ++ expand depth b
    | none => [c]

/-- The parts of parts of parts are no longer composed. -/
def depth : Nat := 3

/-- Puts a character behind those before it, the last first: a mark stands before the
marks of greater classes. -/
def settle (c : Char) : List Char → List Char
  | [] => [c]
  | p :: ps =>
    if combiningClass c ≠ 0 ∧ combiningClass c < combiningClass p then p :: settle c ps
    else c :: p :: ps

/-- The marks behind each starter in the order of their classes. -/
def arrange (cs : List Char) : List Char :=
  (cs.foldl (fun done c => settle c done) []).reverse

/-- Whether the marks that are kept behind a starter, the last first, keep the next
character from it. -/
def blocks (kept : List Char) (c : Char) : Bool :=
  match kept with
  | [] => false
  | p :: _ => combiningClass c ≤ combiningClass p

/-- Composes a starter with what follows it; the marks that stay are kept, the last
first. -/
def gather (s : Char) (kept : List Char) : List Char → List Char
  | [] => s :: kept.reverse
  | c :: cs =>
    match (if blocks kept c then none else whole? s c) with
    | some d => gather d kept cs
    | none =>
      if combiningClass c = 0 then s :: (kept.reverse ++ gather c [] cs)
      else gather s (c :: kept) cs

/-- Composes every starter with what follows it. -/
def compose : List Char → List Char
  | [] => []
  | c :: cs => if combiningClass c = 0 then gather c [] cs else c :: compose cs

/-- The composed form of a text. -/
def composed (cs : List Char) : List Char :=
  compose (arrange (cs.flatMap (expand depth)))

/-! ### Texts of ASCII -/

end Text
end ProxyConsole
