/-
# Where the user stands

The user is at the logout place at no time, and away from the login page only
while the session is live: whatever ends a session sends the user to the login
page, a login that fails leaves the token where it was, and every other place is
entered by the guard alone.

Key definitions: `Session.Standing`.
Key theorems: `Session.standing_does`, `Desk.standing_run`.
-/
import ProxyConsole.Proofs.Desk
import ProxyConsole.Proofs.Session

namespace ProxyConsole

namespace Session

variable {c : Setup} {s t : Session}

/-- The user stands where the session allows it. -/
structure Standing (c : Setup) (s : Session) : Prop where
  route_ne_logout : s.route ≠ .logout
  live : s.route ≠ .login → s.isLive c = true

theorem Standing.of_login (h : s.route = .login) : s.Standing c where
  route_ne_logout := by rw [h]; exact Route.noConfusion
  live hn := absurd h hn

/-- Where the slot holds the same and the user is at the same place, nothing changes. -/
theorem Standing.of_same (h : s.Standing c) (hl : t.slot.load = s.slot.load)
    (hr : t.route = s.route) : t.Standing c where
  route_ne_logout := hr ▸ h.route_ne_logout
  live hn := by
    rw [isLive, current_eq_of_load hl]
    exact h.live (hr ▸ hn)

theorem Standing.of_keeps (h : s.Standing c) (hk : s.Keeps t) : t.Standing c :=
  h.of_same (congrArg Slot.load hk.slot) hk.route

theorem standing_expel (c : Setup) (s : Session) : s.expel.Standing c := .of_login rfl

theorem standing_ask (h : s.Standing c) (a : Ask) : (s.ask c a).2.Standing c := by
  have hs := h.of_keeps (keeps_sent c a s)
  have ho := ask_outcome c a s
  generalize s.ask c a = x at ho ⊢
  cases ho with
  | unanswered cause => exact hs
  | denied => exact standing_expel c (s.sent c a)
  | success => exact hs
  | failure => exact hs

theorem standing_login (h : s.Standing c) (credentials : Credentials) :
    (s.login c credentials).2.Standing c := by
  have hr := login_route c credentials s
  rcases login_cases c credentials s with ⟨t, -, ⟨text, ht⟩, hx, hl⟩ | ⟨f, -, hl⟩
  · refine ⟨hr ▸ h.route_ne_logout, fun _ => ?_⟩
    rw [isLive, current_of_load hl ht hx]
    rfl
  · exact h.of_same hl hr

theorem route_navigate (c : Setup) (target : Route) (s : Session) :
    (s.navigate c target).2.route = (s.navigate c target).1 := by
  unfold navigate
  split
  · rfl
  · split <;> rfl

theorem navigate_ne_logout (c : Setup) (target : Route) (s : Session) :
    (s.navigate c target).1 ≠ .logout := by
  unfold navigate detour
  split
  · next r hd =>
    split at hd
    · cases hd; exact Route.noConfusion
    · cases hd
  · split
    · exact Route.noConfusion
    · next ht => exact ht

theorem standing_navigate (c : Setup) (target : Route) (s : Session) :
    (s.navigate c target).2.Standing c where
  route_ne_logout := by
    rw [route_navigate]
    exact navigate_ne_logout c target s
  live hn := by
    rw [route_navigate] at hn
    exact (navigate_live c target s).resolve_left hn

theorem standing_fail (h : s.Standing c) (p : Payload) : (s.fail p).Standing c := by
  unfold fail
  split
  · exact standing_expel c s
  · exact h.of_same rfl rfl

/-- No deed moves the user where the session does not allow it. -/
theorem standing_does (s : Session) (x : Deed) (h : s.Standing c) : (s.does c x).Standing c := by
  cases x with
  | call a => exact standing_ask h a
  | login credentials => exact standing_login h credentials
  | visit target => exact standing_navigate c target s
  | fail p => exact standing_fail h p
  | collect f => exact h.of_same rfl rfl
  | succeed text => exact h.of_same rfl rfl
  | dismiss => exact h.of_same rfl rfl
  | wait ms => exact h.of_same rfl rfl

end Session

/-- **The user is logged in away from the login page.** From any slot, whatever the
server replies and in whatever order the console, its pages, its collections and its
notices are used, the user is never at the logout place, and the session is live
unless the user is at the login page. -/
theorem Desk.standing_run (c : Setup) (slot : Slot) (server : Server) (acts : List Act) :
    ((Desk.start slot server).run c acts).session.route ≠ .logout ∧
    (((Desk.start slot server).run c acts).session.route ≠ .login →
      ((Desk.start slot server).run c acts).session.isLive c = true) := by
  have h : (Desk.start slot server).session.Standing c := .of_login rfl
  have hr := Session.after_induct Session.standing_does h ((start slot server).trace c acts)
  rw [session_run]
  exact ⟨hr.route_ne_logout, hr.live⟩

end ProxyConsole
