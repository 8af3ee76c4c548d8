/-
# Every failure is handed over once

Whoever uses a collection is told of each failure once, and of nothing else: the
session after a use is the session after its call, and when the use fails the
handler was given the failure that is returned. That failure is one of the call.
Neither a login that was refused nor a token that could not be stored can come of
a use.

Key definitions: `Failure.isOfCall`, `Collection.HandsOver`,
`Collection.HandsOverOnce`.
Key theorems: `Session.isOfCall_ask`, `Collection.handsOver_report`,
`Collection.hands_over_once`.
-/
import ProxyConsole.Proofs.Denial

namespace ProxyConsole

/-! ### The failures of calls -/

/-- Whether a failure is one of a call: the server found fields wrong, the call did not get
through, or the session is not good for it. -/
def Failure.isOfCall : Failure → Bool
  | validation _ _ => true
  | transport _ _ _ => true
  | permission => true
  | auth _ => false
  | storage _ => false

theorem Failure.isOfCall_ofAnswer (status : Nat) (body : Json) :
    (ofAnswer status body).isOfCall = true := by
  unfold ofAnswer
  split
  · rfl
  · split
    · rfl
    · rfl

theorem Answer.isOfCall_decode {read : Outline → Except Mistake α} {r : Answer} {f : Failure}
    (h : r.decode read = .error f) : f.isOfCall = true := by
  obtain ⟨-, m, -, rfl⟩ | ⟨-, rfl⟩ := decode_eq_error h
  · rfl
  · rfl

namespace Session

variable {c : Setup} {a : Ask} {s : Session} {f : Failure}

theorem isOfCall_ask (h : (s.ask c a).1 = .error f) : f.isOfCall = true := by
  have ho := ask_outcome c a s
  generalize s.ask c a = x at h ho
  cases ho with
  | unanswered cause =>
    cases h
    rfl
  | denied =>
    cases h
    rfl
  | success => cases h
  | failure r =>
    cases h
    exact Failure.isOfCall_ofAnswer r.status r.json

theorem isOfCall_fetch {read : Outline → Except Mistake α} (h : (s.fetch c read a).1 = .error f) :
    f.isOfCall = true := by
  have hf {e : Failure} := isOfCall_ask (c := c) (a := a) (s := s) (f := e)
  unfold fetch at h
  dsimp only at h
  cases hr : (s.ask c a).1 with
  | error e =>
    rw [hr] at h
    cases h
    exact hf hr
  | ok r =>
    rw [hr] at h
    exact Answer.isOfCall_decode h

theorem isOfCall_tell (h : (s.tell c a).1 = .error f) : f.isOfCall = true := by
  have hf {e : Failure} := isOfCall_ask (c := c) (a := a) (s := s) (f := e)
  unfold tell at h
  dsimp only at h
  cases hr : (s.ask c a).1 with
  | error e =>
    rw [hr] at h
    cases h
    exact hf hr
  | ok r =>
    rw [hr] at h
    cases h

/-- A call by itself hands nothing over. -/
theorem collected_ask (c : Setup) (a : Ask) (s : Session) :
    (s.ask c a).2.collected = s.collected := by
  have hk := (keeps_sent c a s).collected
  have ho := ask_outcome c a s
  generalize s.ask c a = x at ho ⊢
  cases ho with
  | unanswered cause => exact hk
  | denied => exact hk
  | success => exact hk
  | failure => exact hk

end Session

/-! ### Handing over -/

namespace Collection

/-- What an operation that makes a call leaves behind: the session as the call left it, which
a handler was given the failure on, once, when the operation fails. Whoever collects failures
has gained that one. -/
structure HandsOver (c : Setup) (h : Handler) (a : Ask) (s : Session)
    (r : Except Failure α × Session) : Prop where
  silent : ∀ v, r.1 = .ok v → r.2 = (s.ask c a).2
  told : ∀ f, r.1 = .error f → r.2 = h.handle f (s.ask c a).2
  kind : ∀ f, r.1 = .error f → f.isOfCall = true
  collected : h = .collector → r.2.collected = s.collected ++ (Failure.of? r.1).toList

variable {c : Setup} {h : Handler} {a : Ask} {s : Session}

/-- To report the result of a call is to hand over its failure. -/
theorem handsOver_report {r : Except Failure α × Session} (hr : r.2 = (s.ask c a).2)
    (hf : ∀ f, r.1 = .error f → f.isOfCall = true) : HandsOver c h a s (report h r) := by
  have hc : r.2.collected = s.collected := by
    rw [hr, Session.collected_ask]
  obtain ⟨f | v, t⟩ := r
  · refine ⟨?_, ?_, ?_, ?_⟩
    · rintro v ⟨⟩
    · rintro e ⟨⟩
      exact congrArg (h.handle f) hr
    · rintro e ⟨⟩
      exact hf f rfl
    · rintro rfl
      exact congrArg (· ++ [f]) hc
  · refine ⟨fun _ _ => hr, ?_, ?_, fun _ => ?_⟩
    · rintro f ⟨⟩
    · rintro f ⟨⟩
    · rw [report_ok, hc]
      exact (List.append_nil _).symm

/-- What is made of a success is not handed over. -/
theorem HandsOver.map {r : Except Failure α × Session} (hr : HandsOver c h a s r) (g : α → β) :
    HandsOver c h a s (r.1.map g, r.2) := by
  obtain ⟨f | v, t⟩ := r
  · refine ⟨?_, ?_, ?_, hr.collected⟩
    · rintro v ⟨⟩
    · rintro e ⟨⟩
      exact hr.told f rfl
    · rintro e ⟨⟩
      exact hr.kind f rfl
  · refine ⟨fun _ _ => hr.silent v rfl, ?_, ?_, hr.collected⟩
    · rintro f ⟨⟩
    · rintro f ⟨⟩

theorem handsOver_fetch (read : Outline → Except Mistake α) :
    HandsOver c h a s (report h (s.fetch c read a)) :=
  handsOver_report rfl fun _ => Session.isOfCall_fetch

theorem handsOver_tell : HandsOver c h a s (report h (s.tell c a)) :=
  handsOver_report rfl fun _ => Session.isOfCall_tell

variable (c h)

/-- Every use of a collection of any entities hands its failure over once: fetches, listings,
creations, edits that are pending or have settled, deletions, and new passwords. -/
structure HandsOverOnce : Prop where
  get : ∀ (E : Type) [Entity E] id s,
    HandsOver c h (.get (Entity.itemPath E id) []) s (get E c h id s)
  query : ∀ (E : Type) [Entity E] filter s,
    HandsOver c h (.get (Entity.collection E) filter) s (query E c h filter s)
  create : ∀ (E : Type) [Entity E] draft s,
    HandsOver c h (.send "POST" (Entity.collection E) (Entity.draftJson draft)) s
      (create E c h draft s)
  update : ∀ (E : Type) [Entity E] (d : Edit E) s,
    HandsOver c h (updateAsk d) s ((update c h d s).1, (update c h d s).2.2)
  updateWith : ∀ (E : Type) [Entity E] (change : E → E) e s,
    HandsOver c h (updateAsk ((Edit.begin e).apply change)) s
      ((updateWith c h change e s).1, (updateWith c h change e s).2.2)
  remove : ∀ (E : Type) [Entity E] (e : E) s,
    HandsOver c h (.delete (Entity.itemPath E (Entity.id e))) s (remove c h e s)
  removeFrom : ∀ (E : Type) [Entity E] (kept : List E) id s,
    HandsOver c h (.delete (Entity.itemPath E id)) s
      ((removeFrom c h kept id s).1, (removeFrom c h kept id s).2.2)
  changePassword : ∀ id password s,
    HandsOver c h (passwordAsk id password) s (changePassword c h id password s)

theorem handsOver_update {E : Type} [Entity E] (d : Edit E) (s : Session) :
    HandsOver c h (updateAsk d) s ((update c h d s).1, (update c h d s).2.2) := by
  rw [update_eq_report]
  exact (handsOver_fetch Entity.read).map Entity.settle

theorem handsOver_removeFrom {E : Type} [Entity E] (kept : List E) (id : String) (s : Session) :
    HandsOver c h (.delete (Entity.itemPath E id)) s
      ((removeFrom c h kept id s).1, (removeFrom c h kept id s).2.2) := by
  rw [removeFrom_eq_report]
  exact handsOver_tell

/-- **Every failure is handed over once, and nothing else is.** -/
theorem hands_over_once : HandsOverOnce c h where
  get _ _ _ _ := handsOver_fetch Entity.read
  query _ _ _ _ := handsOver_fetch (Decode.list Entity.read)
  create _ _ _ _ := handsOver_fetch Entity.read
  update _ _ d s := handsOver_update c h d s
  updateWith _ _ change e s := handsOver_update c h ((Edit.begin e).apply change) s
  remove _ _ _ _ := handsOver_tell
  removeFrom _ _ kept id s := handsOver_removeFrom c h kept id s
  changePassword _ _ _ := handsOver_tell

end Collection
end ProxyConsole
