/-
# Names of hosts

A name is brought to small letters and plain forms and cut at its dots; its labels
are written in ASCII. When one of them is written from right to left, all have to
keep their direction.

Key definition: `Domain.name?`.
-/
import ProxyConsole.Wire.Domain.Label
import ProxyConsole.Text.Split

namespace ProxyConsole
namespace Domain

/-- The characters that those of a name stand for, composed. -/
def plain? (cs : List Char) : Option (List Char) :=
  (cs.mapM fold).map fun parts => Text.composed parts.flatten

/-- The labels of a name. -/
def labels? (cs : List Char) : Option (List Label) := do
  let plain ← plain? cs
  (Text.split '.' plain).mapM Label.ofText?

/-- The name in ASCII. -/
def name? (cs : List Char) : Option (List Char) := do
  let labels ← labels? cs
  if labels.any Label.turns && !labels.all Label.keepsDirection then none
  else some (Text.join '.' (labels.map Label.written))

/-! ### Names in ASCII -/

end Domain
end ProxyConsole
