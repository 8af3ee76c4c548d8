/-
# What the user is told

One line tells of a success and one of an error. An error stays until it is
dismissed or another takes its place; a success is gone when its window has
passed, and a new one has a window of its own. Whoever watches is told of every
change.

For every success a task is started that sleeps for the window and then takes the
success away. Each success and each dismissal has a number, the generation, and a
task leaves alone what is not of its generation; besides, a new success or a
dismissal stops the task that was started last. Without a runtime there is no
window: no task is started, and a success stays.

Key definitions: `Task`, `Notices`, `Notices.succeed`, `Notices.fail`,
`Notices.dismiss`, `Notices.elapse`.
Key theorems: `Notices.foldl_fire`, `Notices.error_elapse`.
-/
import ProxyConsole.Failure

namespace ProxyConsole

/-- A task that sleeps until an instant and then takes away the success of its
generation; instants are milliseconds. -/
structure Task where
  number : Nat
  generation : UInt64
  due : Nat
  deriving DecidableEq, Repr

/-- What is shown, and the tasks that are asleep. -/
structure Notices where
  success : Option String
  error : Option String
  /-- How often watchers were told of a change. -/
  changes : Nat
  /-- The number of the latest success or dismissal; it wraps around. -/
  generation : UInt64
  asleep : List Task
  /-- How many tasks were started. -/
  started : Nat
  /-- The task that was started last, unless a dismissal stopped it. -/
  latest : Option Nat
  deriving DecidableEq, Repr

namespace Notices

/-- Nothing is shown. -/
def empty : Notices where
  success := none
  error := none
  changes := 0
  generation := 0
  asleep := []
  started := 0
  latest := none

/-- Starts a task for the latest generation. -/
def start (due : Nat) (n : Notices) : Notices :=
  { n with
    asleep := n.asleep ++ [⟨n.started, n.generation, due⟩]
    started := n.started + 1
    latest := some n.started }

/-- Stops a task; nothing happens when it is not asleep any more. -/
def stop (number : Option Nat) (n : Notices) : Notices :=
  { n with asleep := n.asleep.filter fun t => some t.number ≠ number }

/-- Tells of a success at an instant; it stays for `window` milliseconds, for
ever when there is no window. The task of the success before it is stopped. -/
def succeed (window : Option Nat) (now : Nat) (text : String) (n : Notices) : Notices :=
  let told :=
    { n with generation := n.generation + 1, success := some text, changes := n.changes + 1 }
  match window with
  | some w => (told.start (now + w)).stop n.latest
  | none => told

/-- Tells of a failed call. -/
def fail (p : Payload) (n : Notices) : Notices :=
  { n with error := some p.shown, changes := n.changes + 1 }

/-- Takes both lines away, and stops the task of the success. -/
def dismiss (n : Notices) : Notices :=
  { n.stop n.latest with
    generation := n.generation + 1
    latest := none
    success := none
    error := none
    changes := n.changes + 1 }

/-- A task wakes up, and takes the success away when that is of its generation. -/
def fire (n : Notices) (t : Task) : Notices :=
  if t.generation = n.generation then { n with success := none, changes := n.changes + 1 } else n

/-- What is left at an instant, at which the tasks have woken up that are due. -/
def elapse (now : Nat) (n : Notices) : Notices :=
  (n.asleep.filter fun t => t.due ≤ now).foldl fire
    { n with asleep := n.asleep.filter fun t => now < t.due }

/-- Of the tasks that wake up, those count that are of the generation of the success. -/
theorem foldl_fire : ∀ (ts : List Task) (n : Notices), ts.foldl fire n =
    { n with
      success := if ts.countP (·.generation == n.generation) = 0 then n.success else none
      changes := n.changes + ts.countP (·.generation == n.generation) }
  | [], n => rfl
  | t :: ts, n => by
    rw [List.foldl_cons, foldl_fire ts, List.countP_cons]
    unfold fire
    by_cases h : t.generation = n.generation
    · simp [h, Nat.add_assoc, Nat.add_comm 1]
    · simp [h]

/-- Time does not change the error. -/
theorem error_elapse (now : Nat) (n : Notices) : (n.elapse now).error = n.error := by
  rw [elapse, foldl_fire]

end Notices
end ProxyConsole
