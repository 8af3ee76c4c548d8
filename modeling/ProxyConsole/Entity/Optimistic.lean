/-
# Edits that are shown before the server confirms them

An optimistic edit begins with a snapshot of the local entity. While it is
pending it can be changed further; then it is committed with the copy of the
server, or rolled back to the snapshot. A commit is taken at any time, a
rollback until the first commit.

Key definitions: `Edit`, `Edit.begin`, `Edit.apply`, `Edit.commit`,
`Edit.rollBack`.
-/
import ProxyConsole.Entity.Basic

namespace ProxyConsole

/-- How far an edit is. -/
inductive EditState where
  | pending
  | committed
  | rolledBack
  deriving DecidableEq, Repr

namespace EditState

def text : EditState → String
  | pending => "Pending"
  | committed => "Committed"
  | rolledBack => "RolledBack"

end EditState

/-- An edit of a local entity; the snapshot is gone once it has been used. -/
structure Edit (E : Type) where
  entity : E
  snapshot : Option E
  state : EditState
  deriving Repr

namespace Edit

/-- An edit that has changed nothing yet. -/
def begin (e : E) : Edit E :=
  ⟨e, some e, .pending⟩

/-- A change to the local entity; none once the edit has settled. -/
def apply (change : E → E) (d : Edit E) : Edit E :=
  if d.state = .pending then { d with entity := change d.entity } else d

/-- Takes the copy of the server. -/
def commit [Entity E] (canonical : E) (_ : Edit E) : Edit E :=
  ⟨Entity.settle canonical, none, .committed⟩

/-- Goes back to the snapshot; nothing happens after a commit. -/
def rollBack (d : Edit E) : Edit E :=
  if d.state = .committed then d
  else ⟨d.snapshot.getD d.entity, none, .rolledBack⟩

theorem apply_of_settled {d : Edit E} (h : d.state ≠ .pending) (change : E → E) :
    d.apply change = d := by
  rw [apply, if_neg h]

end Edit
end ProxyConsole
