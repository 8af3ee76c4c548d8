/-
# What the form for a new password tells

The page of a user has a line for an error and a line for a success, and both tell of
the form alone. What the lines are after a run is decided by the submissions of the run,
the latest of them first: the error tells of the latest one, and the success of the
latest one that was sent, if it was accepted.

A submission that is sent leaves one line. One whose passwords differ is not sent and
leaves the success where it is, so that both lines are shown when it comes right behind a
submission that was accepted, and at no other time.

Key definitions: `UserScreen.FormAct`, `UserScreen.formRun`, `UserScreen.Submission`,
`UserScreen.submissions`, `UserScreen.errorLine`, `UserScreen.successLine`.
Key theorems: `UserScreen.Recounts.submit`, `UserScreen.recounts_run`, `UserScreen.form_tells`.
-/
import ProxyConsole.Proofs.Plain
import ProxyConsole.Screen.User

namespace ProxyConsole
namespace UserScreen

/-! ### Runs of the form -/

/-- What is done with the form. -/
inductive FormAct where
  | enter (password : String)
  | confirm (confirmation : String)
  | submit
  deriving DecidableEq, Repr

/-- The page and the session after something was done with the form. -/
def formStep (c : Setup) (x : UserScreen × Session) : FormAct → UserScreen × Session
  | .enter password => ({ x.1 with password }, x.2)
  | .confirm confirmation => ({ x.1 with confirmation }, x.2)
  | .submit => x.1.submitPassword c x.2

def formRun (c : Setup) (x : UserScreen × Session) (acts : List FormAct) :
    UserScreen × Session :=
  acts.foldl (formStep c) x

/-- What became of a password that was submitted. -/
inductive Submission where
  /-- The passwords differ, and nothing was sent. -/
  | mismatched
  | accepted
  | refused
  deriving DecidableEq, Repr

/-- What becomes of the password when it is submitted now. -/
def submission (c : Setup) (x : UserScreen × Session) : Submission :=
  if x.1.password ≠ x.1.confirmation then .mismatched
  else match (Collection.postPassword c x.1.user.id x.1.password x.2).1 with
    | .ok _ => .accepted
    | .error _ => .refused

/-- What becomes of the password by something that is done with the form. -/
def submission? (c : Setup) (x : UserScreen × Session) : FormAct → List Submission
  | .submit => [submission c x]
  | .enter _ | .confirm _ => []

/-- The submissions of a run, the latest of them first. -/
def submissions (c : Setup) (x : UserScreen × Session) : List FormAct → List Submission
  | [] => []
  | a :: acts => submissions c (formStep c x a) acts ++ submission? c x a

/-! ### The lines -/

/-- The error behind submissions: what the latest of them was told. -/
def errorLine : List Submission → Option String
  | .mismatched :: _ => some mismatch
  | .refused :: _ => some failed
  | .accepted :: _ | [] => none

/-- The success behind submissions: whether the latest one that was sent was accepted. -/
def successLine : List Submission → Option String
  | .mismatched :: past => successLine past
  | .accepted :: _ => some updated
  | .refused :: _ | [] => none

/-- The lines of a page tell of the submissions so far. -/
structure Recounts (past : List Submission) (p : UserScreen) : Prop where
  error : p.error = errorLine past
  success : p.success = successLine past

variable {c : Setup}

/-- A submission is told in front of those before it. -/
theorem Recounts.submit {past : List Submission} {p : UserScreen} (h : p.Recounts past) (s : Session) :
    (p.submitPassword c s).1.Recounts (submission c (p, s) :: past) := by
  unfold submitPassword submission
  by_cases hm : p.password ≠ p.confirmation
  · rw [if_pos hm, if_pos hm]
    exact ⟨rfl, h.success⟩
  · rw [if_neg hm, if_neg hm]
    dsimp only
    rcases Collection.postPassword c p.user.id p.password s with ⟨_ | _, t⟩
    · exact ⟨rfl, rfl⟩
    · exact ⟨rfl, rfl⟩

theorem Recounts.step {past : List Submission} {x : UserScreen × Session} (h : x.1.Recounts past)
    (a : FormAct) : (formStep c x a).1.Recounts (submission? c x a ++ past) := by
  cases a with
  | enter password => exact ⟨h.error, h.success⟩
  | confirm confirmation => exact ⟨h.error, h.success⟩
  | submit => exact h.submit x.2

/-- The submissions of a run are told in front of those before it. -/
theorem recounts_run : ∀ {past : List Submission} {x : UserScreen × Session} (_ : x.1.Recounts past)
    (acts : List FormAct), (formRun c x acts).1.Recounts (submissions c x acts ++ past)
  | _, _, h, [] => h
  | past, x, h, a :: acts => by
    rw [submissions, List.append_assoc]
    exact recounts_run (h.step a) acts

/-- A page that was opened tells of nothing. -/
theorem recounts_of_load {id : String} {s : Session} {p : UserScreen}
    (h : (load c id s).1.toOption = some p) : p.Recounts [] := by
  unfold load at h
  split at h
  · cases h
  · split at h
    · cases h
    · cases h
      exact ⟨rfl, rfl⟩

/-! ### Both lines at once -/

/-- Something is told once a password was submitted. -/
theorem errorLine_or_successLine {past : List Submission} (h : past ≠ []) :
    errorLine past ≠ none ∨ successLine past ≠ none := by
  cases past with
  | nil => exact absurd rfl h
  | cons x past =>
    cases x with
    | mismatched => exact .inl (Option.some_ne_none _)
    | accepted => exact .inr (Option.some_ne_none _)
    | refused => exact .inl (Option.some_ne_none _)

/-- A success is shown exactly when nothing was sent since a password was accepted. -/
theorem successLine_ne_none : ∀ {past : List Submission}, successLine past ≠ none ↔
    ∃ n older, past = List.replicate n .mismatched ++ .accepted :: older
  | [] => by simp [successLine]
  | .mismatched :: past => by
    rw [successLine, successLine_ne_none]
    constructor
    · rintro ⟨n, older, rfl⟩
      exact ⟨n + 1, older, rfl⟩
    · rintro ⟨_ | n, older, h⟩
      · cases h
      · exact ⟨n, older, (List.cons.inj h).2⟩
  | .accepted :: past => iff_of_true (Option.some_ne_none _) ⟨0, past, rfl⟩
  | .refused :: past => by
    refine iff_of_false (fun h => h rfl) ?_
    rintro ⟨_ | n, older, h⟩
    · cases h
    · cases h

/-- Both lines are shown exactly when passwords that differ were submitted since one was
accepted, and none was sent in between. -/
theorem both_lines {past : List Submission} : errorLine past ≠ none ∧ successLine past ≠ none ↔
    ∃ n older, past = List.replicate (n + 1) .mismatched ++ .accepted :: older := by
  rw [successLine_ne_none]
  constructor
  · rintro ⟨he, _ | n, older, rfl⟩
    · exact absurd rfl he
    · exact ⟨n, older, rfl⟩
  · rintro ⟨n, older, rfl⟩
    exact ⟨Option.some_ne_none _, n + 1, older, rfl⟩

/-- **The form tells of its latest submission**, and of a success as long as nothing else was
sent: on a page that was opened, whatever is entered and submitted and whatever the server
replies, the error is that of the latest submission and the success that of the latest one
that was sent. Something is told once a password was submitted, and both lines are shown
exactly when passwords that differ were submitted right behind a password that was accepted. -/
theorem form_tells {id : String} {s : Session} {p : UserScreen} (h : (load c id s).1.toOption = some p)
    (t : Session) (acts : List FormAct) :
    let q := (formRun c (p, t) acts).1
    let past := submissions c (p, t) acts
    q.error = errorLine past ∧ q.success = successLine past ∧
      (past ≠ [] → q.error ≠ none ∨ q.success ≠ none) ∧
      (q.error ≠ none ∧ q.success ≠ none ↔
        ∃ n older, past = List.replicate (n + 1) .mismatched ++ .accepted :: older) := by
  intro q past
  have hrun : q.Recounts (past ++ []) := recounts_run (x := (p, t)) (recounts_of_load h) acts
  rw [List.append_nil] at hrun
  rw [hrun.error, hrun.success]
  exact ⟨rfl, rfl, errorLine_or_successLine, both_lines⟩

/-- A server that sends a user and no records, and then accepts a password. -/
def obliging : Session :=
  .start (.memory none) ⟨true,
    [.answer ⟨200, (User.toJson ⟨"u-1", "a@x", none, 0, 0⟩).bytes, true⟩,
      .answer ⟨200, (Json.array []).bytes, true⟩, .answer ⟨200, [], true⟩], []⟩

/-- The page of the user that the server sends. -/
def obliged : UserScreen := ⟨⟨"u-1", "a@x", none, 0, 0⟩, [], "", "", none, none⟩

/-- A password that is accepted, and then two that differ. -/
def hasty : List FormAct :=
  [.enter "hunter22", .confirm "hunter22", .submit, .enter "one", .confirm "two", .submit]

theorem form_tells_hasty :
    (load .loopback "u-1" obliging).1.toOption = some obliged ∧
    submissions .loopback (obliged, (load .loopback "u-1" obliging).2) hasty =
      [.mismatched, .accepted] ∧
    (formRun .loopback (obliged, (load .loopback "u-1" obliging).2) hasty).1.error =
      some mismatch := by
  have h : (load .loopback "u-1" obliging).1.toOption = some obliged := by decide +kernel
  have hs : submissions .loopback (obliged, (load .loopback "u-1" obliging).2) hasty =
      [.mismatched, .accepted] := by decide +kernel
  have ht := form_tells h (load .loopback "u-1" obliging).2 hasty
  rw [hs] at ht
  exact ⟨h, hs, ht.1⟩

/-- The success of the password that was accepted is still shown beside the error. -/
theorem both_shown :
    (load .loopback "u-1" obliging).1.toOption = some obliged ∧
    (formRun .loopback (obliged, (load .loopback "u-1" obliging).2) hasty).1.error =
      some mismatch ∧
    (formRun .loopback (obliged, (load .loopback "u-1" obliging).2) hasty).1.success =
      some updated := by
  decide +kernel

end UserScreen
end ProxyConsole
