/-
# The life of an edit

An edit is changed, committed and rolled back in any order. The copy that was
committed last is what becomes of it, whatever else was done; without a copy a
rollback leaves the entity as the edit found it; without either the changes add
up. So a change to an edit that has settled is lost, and so is a rollback after a
commit.

An edit that has settled can still be sent, and a copy can still be committed.
Each copy of the server is taken, also after a rollback; nothing else moves an
edit that has settled.

Key definitions: `Edit.Step`, `Edit.run`, `Edit.fate`, `Edit.Move`, `Edit.moves`.
Key theorems: `Edit.run_begin`, `Edit.run_settled`, `Edit.life`,
`Edit.moves_fst`, `Edit.moves_settled`.
-/
import Mathlib.Data.List.Induction
import ProxyConsole.Proofs.Confirmed
import ProxyConsole.Proofs.Plain

namespace ProxyConsole
namespace Edit

/-! ### Rows of steps -/

/-- What can be done with an edit at hand. -/
inductive Step (E : Type) where
  | apply (change : E → E)
  | commit (canonical : E)
  | rollBack

namespace Step

variable {E : Type}

/-- The copy of the server that a step takes. -/
def copy? : Step E → Option E
  | commit canonical => some canonical
  | _ => none

def isRollBack : Step E → Bool
  | rollBack => true
  | _ => false

/-- What a step makes of the entity while the edit is pending. -/
def onPending (e : E) : Step E → E
  | apply change => change e
  | _ => e

end Step

/-- The copies that are taken in a row of steps. -/
def copies (steps : List (Step E)) : List E :=
  steps.filterMap Step.copy?

variable {E : Type} [Entity E]

def step (d : Edit E) : Step E → Edit E
  | .apply change => d.apply change
  | .commit canonical => d.commit canonical
  | .rollBack => d.rollBack

/-- An edit after steps, in their order. -/
def run (d : Edit E) (steps : List (Step E)) : Edit E :=
  steps.foldl step d

/-- What becomes of an edit that begins on an entity: the last copy counts, then any
rollback, then the changes. -/
def fate (e : E) (steps : List (Step E)) : Edit E :=
  match (copies steps).getLast? with
  | some canonical => ⟨Entity.settle canonical, none, .committed⟩
  | none =>
    if steps.any Step.isRollBack then ⟨e, none, .rolledBack⟩
    else ⟨steps.foldl Step.onPending e, some e, .pending⟩

theorem run_append (d : Edit E) (first later : List (Step E)) :
    d.run (first ++ later) = (d.run first).run later :=
  List.foldl_append

/-- A step more in the row is a step of the edit. What was decisive so far stays so, unless
the step is a commit. -/
theorem fate_concat (e : E) (steps : List (Step E)) (x : Step E) :
    fate e (steps ++ [x]) = (fate e steps).step x := by
  have hcopies : copies (steps ++ [x]) = copies steps ++ x.copy?.toList := by
    rw [copies, List.filterMap_append]
    cases x <;> rfl
  unfold fate
  rw [hcopies, List.getLast?_append, List.any_append, List.foldl_append]
  cases (copies steps).getLast? with
  | some last => cases x <;> rfl
  | none =>
    cases steps.any Step.isRollBack with
    | true => cases x <;> rfl
    | false => cases x <;> rfl

/-- An edit comes to its fate. The induction takes off the last step, as it is the last
copy that counts. -/
theorem run_begin (e : E) (steps : List (Step E)) : (begin e).run steps = fate e steps := by
  induction steps using List.reverseRecOn with
  | nil => rfl
  | append_singleton steps x ih =>
    rw [run_append, ih, fate_concat]
    rfl

theorem state_fate_of_copies {e : E} {steps : List (Step E)} (h : copies steps = [])
    (hr : steps.any Step.isRollBack = false) : (fate e steps).state = .pending := by
  rw [fate, h, hr]
  rfl

/-- Once an edit has settled, the last copy that is taken later is what becomes of it; without
one it stays as it is. -/
theorem run_settled {e : E} {first : List (Step E)} (h : ((begin e).run first).state ≠ .pending)
    (later : List (Step E)) :
    ((begin e).run first).run later =
      match (copies later).getLast? with
      | some canonical => ⟨Entity.settle canonical, none, .committed⟩
      | none => (begin e).run first := by
  have hcopies : copies (first ++ later) = copies first ++ copies later := List.filterMap_append
  rw [← run_append]
  rw [run_begin] at h
  rw [run_begin, run_begin, fate, hcopies, List.getLast?_append]
  cases hl : (copies later).getLast? with
  | some canonical => rfl
  | none =>
    cases hf : (copies first).getLast? with
    | some canonical =>
      rw [fate, hf]
      rfl
    | none =>
      have hr : first.any Step.isRollBack = true := by
        by_contra hr
        exact h (state_fate_of_copies (List.getLast?_eq_none_iff.mp hf) (by simpa using hr))
      rw [fate, hf]
      simp [hr]

/-- How edits of a type of entities end whose copies are kept in a certain form: with the last
copy that was committed; or, when none was and the edit was rolled back, with the entity that
the edit began on; or with the changes in their order. A change to an edit that has settled
is lost, and so is a rollback after a commit. -/
structure LivesOut (E : Type) [Entity E] (form : E → E) : Prop where
  committed : ∀ (e : E) steps canonical, (copies steps).getLast? = some canonical →
    ((begin e).run steps).state = .committed ∧ ((begin e).run steps).entity = form canonical
  rolledBack : ∀ (e : E) steps, copies steps = [] → steps.any Step.isRollBack = true →
    ((begin e).run steps).state = .rolledBack ∧ ((begin e).run steps).entity = e
  pending : ∀ (e : E) steps, copies steps = [] → steps.any Step.isRollBack = false →
    ((begin e).run steps).state = .pending ∧
    ((begin e).run steps).entity = steps.foldl Step.onPending e
  lost : ∀ (e : E) steps change, ((begin e).run steps).state ≠ .pending →
    (begin e).run (steps ++ [.apply change]) = (begin e).run steps
  kept : ∀ (e : E) steps, ((begin e).run steps).state = .committed →
    (begin e).run (steps ++ [.rollBack]) = (begin e).run steps

theorem livesOut {form : E → E} (hform : ∀ e : E, Entity.settle e = form e) :
    LivesOut E form where
  committed e steps canonical h := by
    rw [run_begin, fate, h]
    exact ⟨rfl, hform canonical⟩
  rolledBack e steps h hr := by
    rw [run_begin, fate, h, hr]
    exact ⟨rfl, rfl⟩
  pending e steps h hr := by
    rw [run_begin, fate, h, hr]
    exact ⟨rfl, rfl⟩
  lost e steps change h := by
    rw [run_append]
    exact apply_of_settled h change
  kept e steps h := by
    rw [run_append]
    exact if_pos h

/-- **How an edit ends.** This holds of records, of which the copy is kept as it is, and of
users, of which it is kept without a password. -/
theorem life : LivesOut Record id ∧ LivesOut User fun u => { u with password := none } :=
  ⟨livesOut fun _ => rfl, livesOut fun _ => rfl⟩

/-! ### Edits that are sent -/

/-- What can be done with an edit: a step, or it is sent, with anything done to the session
before. -/
inductive Move (E : Type) where
  | step (x : Step E)
  | submit (h : Handler) (before : List Deed)

/-- The edit and the session after a move. -/
def moved (c : Setup) (x : Edit E × Session) : Move E → Edit E × Session
  | .step y => (x.1.step y, x.2)
  | .submit h before => (Collection.update c h x.1 (x.2.after c before)).2

/-- The edit and the session after moves, in their order. -/
def moves (c : Setup) (x : Edit E × Session) (ms : List (Move E)) : Edit E × Session :=
  ms.foldl (moved c) x

/-- The step that a move is for the edit: sending it commits the copy that comes back, or
rolls it back when none does. -/
def stepOf (c : Setup) (x : Edit E × Session) : Move E → Step E
  | .step y => y
  | .submit _ before =>
    match Collection.received? c x.1 (x.2.after c before) with
    | some canonical => .commit canonical
    | none => .rollBack

/-- The steps that moves are for the edit. -/
def stepsOf (c : Setup) (x : Edit E × Session) : List (Move E) → List (Step E)
  | [] => []
  | m :: ms => stepOf c x m :: stepsOf c (moved c x m) ms

theorem moved_fst (c : Setup) (x : Edit E × Session) (m : Move E) :
    (moved c x m).1 = x.1.step (stepOf c x m) := by
  cases m with
  | step y => rfl
  | submit h before =>
    unfold moved stepOf
    dsimp only
    cases hf : ((x.2.after c before).fetch c (Entity.read (E := E)) (Collection.updateAsk x.1)).1 with
    | ok canonical =>
      rw [Collection.received?_eq_some_iff_fetch.mpr hf, (Collection.update_of_ok hf).2]
      rfl
    | error f =>
      rw [Collection.received?_of_error hf, (Collection.update_of_error hf).2]
      rfl

theorem moves_fst (c : Setup) : ∀ (ms : List (Move E)) (x : Edit E × Session),
    (moves c x ms).1 = x.1.run (stepsOf c x ms)
  | [], _ => rfl
  | m :: ms, x => by
    have ih := moves_fst c ms (moved c x m)
    rw [moved_fst] at ih
    exact ih

/-- **What moves an edit that has settled.** Without a copy of the server it stays as it is,
however it is changed, rolled back or sent; the last copy, committed or sent back, makes it
committed, and is what the entity then is. -/
theorem moves_settled (c : Setup) {e : E} {s : Session} {first : List (Move E)}
    (h : (moves c (begin e, s) first).1.state ≠ .pending) (later : List (Move E)) :
    (copies (stepsOf c (moves c (begin e, s) first) later) = [] →
      (moves c (moves c (begin e, s) first) later).1 = (moves c (begin e, s) first).1) ∧
    (∀ canonical, (copies (stepsOf c (moves c (begin e, s) first) later)).getLast? = some canonical →
      (moves c (moves c (begin e, s) first) later).1.state = .committed ∧
      (moves c (moves c (begin e, s) first) later).1.entity = Entity.settle canonical) := by
  have hfirst : (moves c (begin e, s) first).1 = (begin e).run (stepsOf c (begin e, s) first) :=
    moves_fst c first (begin e, s)
  have hlater := moves_fst c later (moves c (begin e, s) first)
  rw [hfirst] at h
  rw [hlater, hfirst, run_settled h]
  constructor
  · intro hn
    rw [hn]
    rfl
  · intro canonical hc
    rw [hc]
    exact ⟨rfl, rfl⟩

/-- A user as it is shown. -/
def staleUser : User := ⟨"u-1", "a@x", none, 0, 0⟩

/-- The same user as the server has it. -/
def freshUser : User := ⟨"u-1", "b@x", none, 0, 0⟩

/-- A session at a server that refuses the first call and answers the second one with the
fresh user. -/
def relenting : Session :=
  .start (.memory none)
    ⟨true, [.answer ⟨500, [], true⟩, .answer ⟨200, (Entity.toJson freshUser).bytes, true⟩], []⟩

theorem moves_settled_relenting :
    (moves .loopback (begin staleUser, relenting) [.submit .banner []]).1.state ≠ .pending ∧
    (copies (stepsOf .loopback
      (moves .loopback (begin staleUser, relenting) [.submit .banner []])
      [.step (.apply User.withoutPassword), .submit .banner []])).getLast? = some freshUser ∧
    (moves .loopback (moves .loopback (begin staleUser, relenting) [.submit .banner []])
      [.step (.apply User.withoutPassword), .submit .banner []]).1.state = .committed := by
  have h : (moves .loopback (begin staleUser, relenting) [.submit .banner []]).1.state ≠ .pending := by
    decide +kernel
  have hc : (copies (stepsOf .loopback
      (moves .loopback (begin staleUser, relenting) [.submit .banner []])
      [.step (.apply User.withoutPassword), .submit .banner []])).getLast? = some freshUser := by
    decide +kernel
  exact ⟨h, hc, ((moves_settled .loopback h _).2 freshUser hc).1⟩

/-- An edit that has settled is settled anew: one that was rolled back is committed, and one
that was committed shows another copy. It makes no difference whether the copy is committed or
comes back when the edit is sent again. -/
theorem settled_anew :
    ((begin staleUser).run [.rollBack]).state = .rolledBack ∧
    ((begin staleUser).run [.rollBack, .commit freshUser]).state = .committed ∧
    ((begin staleUser).run [.rollBack, .commit freshUser]).entity ≠
      ((begin staleUser).run [.rollBack]).entity ∧
    ((begin staleUser).run [.commit staleUser]).state = .committed ∧
    ((begin staleUser).run [.commit staleUser, .commit freshUser]).entity ≠
      ((begin staleUser).run [.commit staleUser]).entity ∧
    (moves .loopback (begin staleUser, relenting) [.submit .banner []]).1.state = .rolledBack ∧
    (moves .loopback (begin staleUser, relenting)
      [.submit .banner [], .submit .banner []]).1.state = .committed := by
  decide +kernel

end Edit
end ProxyConsole
