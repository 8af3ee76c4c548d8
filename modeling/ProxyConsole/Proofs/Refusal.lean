/-
# Who is not logged in is turned away

A session is not live when its slot holds no token, or a text that is no token,
or a token that has expired, be it at this very instant. Then no page of the
console can be entered: the operation fails for want of a permission, the user is
at the login page, and nothing else has changed, neither here nor at the server. A
check answers no and asks the server nothing; the question what the server is
remains for the first check that finds the session live.

Key definitions: `Session.Lacks`, `Console.turnedAway`, `Console.Refuses`.
Key theorems: `Session.isLive_eq_false_iff`, `Console.within_of_lacks`,
`Console.refuses`.
-/
import ProxyConsole.Proofs.Check

namespace ProxyConsole

namespace Route

variable {target : Route}

theorem ne_login (h : target.needsSession = true) : target ≠ .login := by
  rintro rfl
  cases h

theorem ne_logout (h : target.needsSession = true) : target ≠ .logout := by
  rintro rfl
  cases h

end Route

namespace Session

/-- What a session lacks that is not live: a token, the form of one, or time. -/
inductive Lacks (c : Setup) (s : Session) : Prop where
  | token : s.slot.load = none → Lacks c s
  | form (text : String) (flaw : TokenFlaw) : s.slot.load = some text →
      Token.read text = .error flaw → Lacks c s
  | time (text : String) (t : Token) (e : Int64) : s.slot.load = some text →
      Token.read text = .ok t → t.claims.exp = some e → e ≤ c.today → Lacks c s

variable {c : Setup} {s : Session}

theorem isLive_of_load_eq_none (h : s.slot.load = none) : s.isLive c = false := by
  simp [isLive, current, h]

/-- A text that is no token does not count. -/
theorem isLive_of_error {text : String} {flaw : TokenFlaw} (hl : s.slot.load = some text)
    (hr : Token.read text = .error flaw) : s.isLive c = false := by
  simp [isLive, current, hl, Token.read?, hr, Except.toOption]

/-- A token counts until it expires. -/
theorem isLive_of_read {text : String} {t : Token} (hl : s.slot.load = some text)
    (hr : Token.read text = .ok t) : s.isLive c = !t.expiredAt c.today := by
  have hc : s.current c = (some t).filter fun t => !t.expiredAt c.today := by
    simp [current, hl, Token.read?, hr, Except.toOption]
  cases hx : t.expiredAt c.today <;> simp [isLive, hc, Option.filter, hx]

theorem expiredAt_eq_true {t : Token} {now : Int64} :
    t.expiredAt now = true ↔ ∃ e, t.claims.exp = some e ∧ e ≤ now := by
  unfold Token.expiredAt
  cases t.claims.exp with
  | none => simp
  | some e => simp

/-- There is no other reason why a session is not live. -/
theorem isLive_eq_false_iff : s.isLive c = false ↔ s.Lacks c := by
  constructor
  · intro h
    cases hl : s.slot.load with
    | none => exact .token hl
    | some text =>
      cases hr : Token.read text with
      | error flaw => exact .form text flaw hl hr
      | ok t =>
        have hx : t.expiredAt c.today = true := by
          rw [isLive_of_read hl hr] at h
          simpa using h
        obtain ⟨e, he, hle⟩ := expiredAt_eq_true.mp hx
        exact .time text t e hl hr he hle
  · intro h
    rcases h with hl | ⟨text, flaw, hl, hr⟩ | ⟨text, t, e, hl, hr, he, hle⟩
    · exact isLive_of_load_eq_none hl
    · exact isLive_of_error hl hr
    · have hx : t.expiredAt c.today = true := expiredAt_eq_true.mpr ⟨e, he, hle⟩
      rw [isLive_of_read hl hr, hx, Bool.not_true]

/-- Who is not logged in is sent to the login page from every place that needs a session. -/
theorem navigate_of_lacks {target : Route} (h : s.Lacks c) (ht : target.needsSession = true) :
    s.navigate c target = (.login, { s with route := .login }) := by
  have hl : s.isLive c = false := isLive_eq_false_iff.mpr h
  simp [navigate, detour, hl, ht]

end Session

namespace Console

/-- The console of a user who was turned away: at the login page, and otherwise as it was. -/
def turnedAway (k : Console) : Console :=
  { k with session := { k.session with route := .login } }

variable {c : Setup} {k : Console}

/-- Where a page needs a session, nothing is done on it without one. -/
theorem within_of_lacks {target : Route} (h : k.session.Lacks c)
    (ht : target.needsSession = true) (go : Session → Except Failure α × Session) :
    k.within c target go = (.error .permission, k.turnedAway) := by
  have hne : Route.login ≠ target := (Route.ne_login ht).symm
  have he : enter c target k.session =
      (.error .permission, { k.session with route := .login }) := by
    simp [enter, Session.navigate_of_lacks h ht, hne]
  rw [within, he]
  rfl

/-- A console without a live session lets nobody in. Every page is refused, whatever is
asked for, and the user is turned away; a check answers no and changes nothing, so that the
first check of a live session still asks what the server is. -/
structure Refuses (c : Setup) (k : Console) : Prop where
  records : k.records c = (.error .permission, k.turnedAway)
  users : k.users c = (.error .permission, k.turnedAway)
  openRecord : ∀ id, k.openRecord c id = (.error .permission, k.turnedAway)
  openUser : ∀ id, k.openUser c id = (.error .permission, k.turnedAway)
  newRecord : ∀ draft, k.newRecord c draft = (.error .permission, k.turnedAway)
  newUser : ∀ draft, k.newUser c draft = (.error .permission, k.turnedAway)
  check : k.checkLive c = (false, k)
  question : k.infoRequested = false → ∀ s : Session, s.isLive c = true →
    (checkLive c { (k.checkLive c).2 with session := s }).2.session =
      (s.ask c (.get infoPath [])).2

/-- **Without a live session nothing happens.** -/
theorem refuses (h : k.session.Lacks c) : k.Refuses c := by
  have hcheck : k.checkLive c = (false, k) := by
    have hl : k.session.isLive c = false := Session.isLive_eq_false_iff.mpr h
    simp [checkLive, hl]
  refine ⟨within_of_lacks h rfl _, within_of_lacks h rfl _, fun id => within_of_lacks h rfl _,
    fun id => within_of_lacks h rfl _, fun draft => within_of_lacks h rfl _,
    fun draft => within_of_lacks h rfl _, hcheck, fun hi s hs => ?_⟩
  rw [hcheck, session_checkLive]
  simp [hs, hi]

/-- A console whose token expires at this very instant, at a server that would answer. -/
def lapsed : Console :=
  .start (.start (.memory (some "a.eyJleHAiOjB9.c")) ⟨true, [.answer ⟨200, [], true⟩], []⟩)

theorem refuses_lapsed :
    Setup.loopback.today = 0 ∧
    (lapsed.session.slot.load.bind Token.read?).bind (·.claims.exp) = some 0 ∧
    lapsed.session.Lacks .loopback ∧
    lapsed.openRecord .loopback "1" = (.error .permission, lapsed.turnedAway) ∧
    lapsed.checkLive .loopback = (false, lapsed) := by
  have h : lapsed.session.Lacks .loopback := Session.isLive_eq_false_iff.mp (by decide +kernel)
  exact ⟨rfl, by decide +kernel, h, (refuses h).openRecord "1", (refuses h).check⟩

end Console
end ProxyConsole
