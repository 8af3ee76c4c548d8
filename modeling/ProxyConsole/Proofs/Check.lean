/-
# What a check answers

A check answers whether the session is live before it asks the server to tell of
itself. When that call is denied the session ends, and the answer is one of the
past: the user who is told to be logged in is at the login page already. It is the
only case in which the answer does not hold of the session after the check.

Key definitions: `Console.isExpelled`.
Key theorems: `Console.checkLive_fst`, `Console.isLive_checkLive`,
`Console.checkLive_holds_iff`.
-/
import ProxyConsole.Command.Run
import ProxyConsole.Proofs.Denial
import ProxyConsole.Proofs.Desk
import ProxyConsole.Proofs.Session

namespace ProxyConsole

namespace Session

theorem isLive_ask (c : Setup) (a : Ask) (s : Session) :
    (s.ask c a).2.isLive c = (s.isLive c && !s.isDenied c a) := by
  have hl := load_ask c a s
  cases hd : s.isDenied c a with
  | true =>
    rw [hd, if_pos rfl] at hl
    simp [isLive, current, hl]
  | false =>
    rw [hd, if_neg Bool.false_ne_true] at hl
    rw [isLive, current_eq_of_load hl, Bool.not_false, Bool.and_true]
    rfl

/-- Whoever is denied is sent to the login page. -/
theorem route_ask_of_isDenied {c : Setup} {a : Ask} {s : Session} (h : s.isDenied c a = true) :
    (s.ask c a).2.route = .login := by
  have ho := ask_outcome c a s
  unfold isDenied at h
  generalize s.ask c a = x at ho ⊢
  cases ho with
  | unanswered cause hn =>
    rw [hn] at h
    cases h
  | denied => rfl
  | success r ha hr =>
    rw [ha, Option.any_some, beq_iff_eq] at h
    exact absurd h (status_ne_of_isSuccess hr)
  | failure r ha hu hr =>
    rw [ha, Option.any_some, beq_iff_eq] at h
    exact absurd h hu

end Session

namespace Console

/-- Whether a check ends the session: it makes its call, and the call is denied. -/
def isExpelled (c : Setup) (k : Console) : Bool :=
  k.session.isLive c && !k.infoRequested && k.session.isDenied c (.get infoPath [])

variable (c : Setup) (k : Console)

/-- The answer is settled before the call is made. -/
theorem checkLive_fst : (k.checkLive c).1 = k.session.isLive c := by
  unfold checkLive
  by_cases hl : k.session.isLive c = true
  · rw [if_pos hl, hl]
    split
    · rfl
    · split
      · rfl
      · rfl
  · rw [if_neg hl, Bool.eq_false_iff.mpr hl]

/-- A check makes its call when the session is live and no check has made it. -/
theorem session_checkLive : (k.checkLive c).2.session =
    if k.session.isLive c && !k.infoRequested then (k.session.ask c (.get infoPath [])).2
    else k.session := by
  rw [checkLive_eq_after, checkDeeds]
  split
  · rfl
  · rfl

theorem isLive_checkLive :
    (k.checkLive c).2.session.isLive c = (k.session.isLive c && !k.isExpelled c) := by
  rw [session_checkLive, isExpelled]
  by_cases hc : (k.session.isLive c && !k.infoRequested) = true
  · rw [if_pos hc, Session.isLive_ask, hc, Bool.true_and]
  · rw [if_neg hc, Bool.eq_false_iff.mpr hc, Bool.false_and, Bool.not_false, Bool.and_true]

/-- **When the answer of a check holds.** It says whether the session was live, and it still
is so after the check unless the call that the check made was denied; then the answer is
that the user is logged in, while the session has ended and the user is at the login page. -/
theorem checkLive_holds_iff :
    (k.checkLive c).1 = k.session.isLive c ∧
    ((k.checkLive c).1 = (k.checkLive c).2.session.isLive c ↔
      ¬ (k.session.isLive c = true ∧ k.infoRequested = false ∧
        k.session.isDenied c (.get infoPath []) = true)) ∧
    (k.isExpelled c = true → (k.checkLive c).1 = true ∧
      (k.checkLive c).2.session.isLive c = false ∧ (k.checkLive c).2.session.route = .login) := by
  have hexp : k.isExpelled c = true ↔ k.session.isLive c = true ∧ k.infoRequested = false ∧
      k.session.isDenied c (.get infoPath []) = true := by
    rw [isExpelled, Bool.and_eq_true, Bool.and_eq_true, Bool.not_eq_true', and_assoc]
  refine ⟨checkLive_fst c k, ?_, fun he => ?_⟩
  · rw [checkLive_fst, isLive_checkLive, ← hexp]
    cases hl : k.session.isLive c with
    | true => simp
    | false => simp [isExpelled, hl]
  · obtain ⟨hl, hi, hd⟩ := hexp.mp he
    refine ⟨by rw [checkLive_fst, hl], by rw [isLive_checkLive, he, Bool.not_true, Bool.and_false], ?_⟩
    rw [session_checkLive, hl, hi]
    exact Session.route_ask_of_isDenied hd

/-- A console with a token, at a server that denies its first call. -/
def deniedFirst : Console := .start Session.deniedFirst

/-- The user is told to be logged in, and the session has ended. -/
theorem checkLive_deniedFirst :
    (deniedFirst.checkLive .loopback).1 ≠
      (deniedFirst.checkLive .loopback).2.session.isLive .loopback ∧
    (Command.status.run .loopback deniedFirst).1 = ["Logged in to http://127.0.0.1:4443"] ∧
    (Command.status.run .loopback deniedFirst).2.2.session.isLive .loopback = false := by
  decide +kernel

end Console
end ProxyConsole
