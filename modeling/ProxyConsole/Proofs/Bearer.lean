/-
# Tokens on the wire

At a plain server everything that arrives was sent by a call or by a login. A call
carries a token while the session is live and at no other time, and the token is the
one that came last; a login carries none. Once a session is ended nothing that is sent
carries a token, until a login succeeds. Of who asks nothing else is said but the name
and the password in the address of the server, and at a bare server nothing at all.

What the slot holds at any time follows from what was done before: it is empty
while the session is ended, and otherwise holds the token that came last.

Key definitions: `Session.latest`, `Session.isEnded`, `Session.wire`, `Session.Borne`,
`Session.Authorized`.
Key theorems: `Session.load_after`, `Session.arrivals_after`,
`Session.borne_of_mem_wire`, `Desk.authorized_run`.
-/
import ProxyConsole.Proofs.Bare
import ProxyConsole.Proofs.Session

namespace ProxyConsole

/-! ### What the slot holds -/

namespace Deed

/-- The token that a login brings, when it succeeds. -/
def token? (c : Setup) (s : Session) : Deed → Option String
  | .login credentials => (s.login c credentials).1.toOption.map (·.text)
  | _ => none

/-- Whether a deed ends the session: a call that is denied, a logout, or the tale of a
denial. -/
def ends (c : Setup) (s : Session) : Deed → Bool
  | .call a => s.isDenied c a
  | .visit target => target == .logout
  | .fail p => p.isUnauthorized
  | _ => false

end Deed

namespace Session

/-- The token that came last: that of the latest login that succeeded, or what the slot
held at first. -/
def latest (c : Setup) (s : Session) : List Deed → Option String
  | [] => s.slot.load
  | x :: past => (x.token? c (s.after c past)).or (s.latest c past)

/-- Whether the session was ended and no login has succeeded since. -/
def isEnded (c : Setup) (s : Session) : List Deed → Bool
  | [] => false
  | x :: past =>
    (x.token? c (s.after c past)).isNone && (x.ends c (s.after c past) || s.isEnded c past)

theorem load_logout (c : Setup) (s : Session) : (s.navigate c .logout).2.slot.load = none :=
  Slot.load_clear s.slot

theorem slot_navigate {target : Route} (ht : target ≠ .logout) (c : Setup) (s : Session) :
    (s.navigate c target).2.slot = s.slot := by
  unfold navigate
  split
  · rfl
  · rw [if_neg ht]

theorem load_fail (p : Payload) (s : Session) :
    (s.fail p).slot.load = if p.isUnauthorized then none else s.slot.load := by
  unfold fail
  by_cases hp : p.isUnauthorized = true
  · rw [if_pos hp, if_pos hp]
    exact Slot.load_clear s.slot
  · rw [if_neg hp, if_neg hp]

/-- A deed that ends the session empties the slot, and one that brings a token puts it
there; every other deed leaves the slot as it is. -/
theorem load_does (c : Setup) (s : Session) (x : Deed) :
    (s.does c x).slot.load = if x.ends c s then none else (x.token? c s).or s.slot.load := by
  cases x with
  | call a => exact load_ask c a s
  | login credentials =>
    rcases login_cases c credentials s with ⟨t, hr, -, -, hl⟩ | ⟨f, hr, hl⟩
    · rw [does, hl, Deed.token?, hr]
      rfl
    · rw [does, hl, Deed.token?, hr]
      rfl
  | visit target =>
    by_cases ht : target = .logout
    · rw [ht]
      exact load_logout c s
    · have he : (Deed.visit target).ends c s = false := by simpa [Deed.ends] using ht
      rw [he, does, slot_navigate ht]
      rfl
  | fail p => exact load_fail p s
  | collect f => rfl
  | succeed text => rfl
  | dismiss => rfl
  | wait ms => rfl

theorem token?_of_ends {c : Setup} {s : Session} {x : Deed} (h : x.ends c s = true) :
    x.token? c s = none := by
  cases x with
  | login credentials => cases h
  | _ => rfl

/-- **What the slot holds.** It is empty while the session is ended, and otherwise holds
the token that came last. -/
theorem load_after (c : Setup) (s : Session) : ∀ past : List Deed,
    (s.after c past).slot.load = if s.isEnded c past then none else s.latest c past
  | [] => rfl
  | x :: past => by
    rw [after, load_does, load_after c s past, isEnded, latest]
    by_cases he : x.ends c (s.after c past) = true
    · rw [he, token?_of_ends he]
      rfl
    · rw [Bool.not_eq_true] at he
      rw [he]
      cases x.token? c (s.after c past) with
      | some text => rfl
      | none => rfl

/-- The token that a live session sends is the one that came last. -/
theorem text_current_after {c : Setup} {s : Session} {past : List Deed} {t : Token}
    (h : (s.after c past).current c = some t) :
    s.isEnded c past = false ∧ ∃ text, s.latest c past = some text ∧ t.text = Text.trimmed text := by
  unfold current at h
  rw [Option.filter_eq_some_iff, load_after] at h
  obtain ⟨hr, -⟩ := h
  cases he : s.isEnded c past with
  | true =>
    rw [he] at hr
    cases hr
  | false =>
    rw [he] at hr
    obtain ⟨text, hl, ht⟩ := Option.bind_eq_some_iff.mp hr
    refine ⟨rfl, text, hl, Token.text_of_read ?_⟩
    unfold Token.read? at ht
    cases hread : Token.read text with
    | error f =>
      rw [hread] at ht
      cases ht
    | ok u =>
      rw [hread] at ht
      cases ht
      rfl

end Session

/-! ### What arrives -/

/-- The request that a deed sends. -/
def Deed.request? (c : Setup) (s : Session) : Deed → Option Request
  | .call a => some (s.request c a)
  | .login credentials => some (Session.loginRequest c credentials)
  | _ => none

namespace Session

theorem server_keep (t : Token) (s : Session) : (s.keep t).2.server = s.server := by
  unfold keep
  dsimp only
  split <;> rfl

theorem server_login (c : Setup) (credentials : Credentials) (s : Session) :
    (s.login c credentials).2.server = (s.send c (loginRequest c credentials)).2.server := by
  unfold login
  generalize s.send c (loginRequest c credentials) = x
  obtain ⟨f | a, t⟩ := x
  · rfl
  · dsimp only
    cases tokenOf c a with
    | error d => rfl
    | ok u => exact server_keep u t

theorem server_navigate (c : Setup) (target : Route) (s : Session) :
    (s.navigate c target).2.server = s.server := by
  unfold navigate
  split
  · rfl
  · split <;> rfl

theorem server_fail (p : Payload) (s : Session) : (s.fail p).server = s.server := by
  unfold fail
  split <;> rfl

/-- Nothing arrives but what calls and logins send. -/
theorem arrivals_does (c : Setup) (s : Session) (x : Deed) :
    (s.does c x).server.arrivals =
      s.server.arrivals ++ ((x.request? c s).map s.server.arrives).getD [] := by
  have hn : s.server.arrivals = s.server.arrivals ++ [] := (List.append_nil _).symm
  cases x with
  | call a =>
    rw [does, server_ask]
    exact arrivals_send c (s.request c a) s
  | login credentials =>
    rw [does, server_login]
    exact arrivals_send c (loginRequest c credentials) s
  | visit target =>
    rw [does, server_navigate]
    exact hn
  | fail p =>
    rw [does, server_fail]
    exact hn
  | collect f => exact hn
  | succeed text => exact hn
  | dismiss => exact hn
  | wait ms => exact hn

/-- A request that reached the server: what arrived, the deed that sent it, and what was
done before. -/
structure Sent where
  past : List Deed
  deed : Deed
  arrival : Arrival

/-- The requests that reached the server in a row of deeds, in their order. -/
def wire (c : Setup) (s : Session) : List Deed → List Sent
  | [] => []
  | x :: past =>
    s.wire c past ++
      ((s.after c (x :: past)).server.arrivals.drop (s.after c past).server.arrivals.length).map
        (⟨past, x, ·⟩)

/-- Every arrival is one of the wire. -/
theorem arrivals_after (c : Setup) (s : Session) : ∀ past : List Deed,
    (s.after c past).server.arrivals = s.server.arrivals ++ (s.wire c past).map (·.arrival)
  | [] => (List.append_nil _).symm
  | x :: past => by
    have ih := arrivals_after c s past
    rw [wire, after, arrivals_does, List.drop_left, List.map_append, ← List.append_assoc, ← ih,
      List.map_map]
    congr 1
    exact (List.map_id _).symm

theorem mem_wire {c : Setup} {s : Session} {r : Sent} : ∀ {past : List Deed}, r ∈ s.wire c past →
    r.deed :: r.past <:+ past ∧ r.arrival ∈
      ((r.deed.request? c (s.after c r.past)).map (s.after c r.past).server.arrives).getD []
  | [], h => by cases h
  | x :: past, h => by
    rw [wire, List.mem_append] at h
    rcases h with h | h
    · obtain ⟨hs, ha⟩ := mem_wire h
      exact ⟨hs.trans (List.suffix_cons x past), ha⟩
    · rw [after, arrivals_does, List.drop_left, List.mem_map] at h
      obtain ⟨a, ha, rfl⟩ := h
      exact ⟨List.suffix_rfl, ha⟩

/-- A request carries a token when it may, and the right one: a call that is made while
the session is live carries the token that came last; a call at any other time, a login,
and whatever is sent after the session was ended carries none. Beside the token it carries
the name and the password in its address, and nothing when there are none. -/
structure Borne (c : Setup) (s : Session) (r : Sent) : Prop where
  sender : (∃ a, r.deed = .call a) ∨ ∃ credentials, r.deed = .login credentials
  live : ∀ a, r.deed = .call a →
    (r.arrival.bearer.isSome = true ↔ (s.after c r.past).isLive c = true)
  bearer : ∀ value, r.arrival.bearer = some value →
    ∃ text, s.latest c r.past = some text ∧ value = "Bearer " ++ Text.trimmed text
  login : ∀ credentials, r.deed = .login credentials → r.arrival.bearer = none
  ended : s.isEnded c r.past = true → r.arrival.bearer = none
  basic : ∀ q, r.deed.request? c (s.after c r.past) = some q → r.arrival.basic = q.basic?

/-- A request says who asks when it may, by its token alone: a call that is made while the
session is live says it by the token that came last; a call at any other time, a login, and
whatever is sent after the session was ended does not say it. -/
structure Authorized (c : Setup) (s : Session) (r : Sent) : Prop where
  sender : (∃ a, r.deed = .call a) ∨ ∃ credentials, r.deed = .login credentials
  live : ∀ a, r.deed = .call a →
    (r.arrival.auth.isSome = true ↔ (s.after c r.past).isLive c = true)
  bearer : ∀ value, r.arrival.auth = some value →
    ∃ text, s.latest c r.past = some text ∧ value = "Bearer " ++ Text.trimmed text
  login : ∀ credentials, r.deed = .login credentials → r.arrival.auth = none
  ended : s.isEnded c r.past = true → r.arrival.auth = none

/-- Without a name and a password the token alone says who asks. -/
theorem Borne.authorized {c : Setup} {s : Session} {r : Sent} (h : s.Borne c r)
    (hb : r.arrival.basic = none) : s.Authorized c r := by
  have ha : r.arrival.auth = r.arrival.bearer := by rw [Arrival.auth, hb, Option.or_none]
  exact ⟨h.sender, ha ▸ h.live, ha ▸ h.bearer, ha ▸ h.login, ha ▸ h.ended⟩

theorem borne_call {c : Setup} (hc : c.isPlain = true) {s : Session} {past : List Deed}
    {a : Ask} {x : Arrival}
    (hx : x ∈ (s.after c past).server.arrives ((s.after c past).request c a)) :
    s.Borne c ⟨past, .call a, x⟩ := by
  obtain ⟨hbasic, ha⟩ := headers_of_arrives hc rfl hx
  rw [request, Option.map_map] at ha
  refine ⟨Or.inl ⟨a, rfl⟩, ?_, ?_, ?_, ?_, ?_⟩
  · intro _ _
    rw [ha, Option.isSome_map, isLive]
  · intro value hv
    rw [ha, Option.map_eq_some_iff] at hv
    obtain ⟨t, ht, rfl⟩ := hv
    obtain ⟨-, text, hl, he⟩ := text_current_after ht
    exact ⟨text, hl, congrArg ("Bearer " ++ ·) he⟩
  · rintro credentials ⟨⟩
  · intro he
    rw [ha, Option.map_eq_none_iff, Option.eq_none_iff_forall_ne_some]
    intro t ht
    have hn := (text_current_after ht).1
    rw [he] at hn
    cases hn
  · rintro q ⟨⟩
    exact hbasic

theorem borne_login {c : Setup} (hc : c.isPlain = true) {s : Session} {past : List Deed}
    {credentials : Credentials} {x : Arrival}
    (hx : x ∈ (s.after c past).server.arrives (loginRequest c credentials)) :
    s.Borne c ⟨past, .login credentials, x⟩ := by
  have haddress : (loginRequest c credentials).address = c.address tokenPath := rfl
  obtain ⟨hbasic, ha⟩ := headers_of_arrives hc haddress hx
  rw [loginRequest, Option.map_none] at ha
  refine ⟨Or.inr ⟨credentials, rfl⟩, ?_, ?_, fun _ _ => ha, fun _ => ha, ?_⟩
  · rintro a ⟨⟩
  · intro value hv
    rw [ha] at hv
    cases hv
  · rintro q ⟨⟩
    exact hbasic

theorem borne_of_mem_wire {c : Setup} (hc : c.isPlain = true) {s : Session}
    {past : List Deed} {r : Sent} (h : r ∈ s.wire c past) : s.Borne c r := by
  obtain ⟨-, hr⟩ := mem_wire h
  obtain ⟨before, deed, x⟩ := r
  cases deed with
  | call a => exact borne_call hc hr
  | login credentials => exact borne_login hc hr
  | _ => cases hr

/-- At a bare server nothing that is sent carries a name or a password. -/
theorem basic_of_mem_wire {c : Setup} (hc : c.isBare = true) {s : Session} {past : List Deed}
    (hpast : ∀ a, .call a ∈ past → IsServed a.path) {r : Sent} (h : r ∈ s.wire c past) :
    r.arrival.basic = none := by
  have hborne := borne_of_mem_wire (Setup.isPlain_of_isBare hc) h
  have hmem : r.deed ∈ past := (mem_wire h).1.subset List.mem_cons_self
  rcases hborne.sender with ⟨a, hd⟩ | ⟨credentials, hd⟩
  · rw [hborne.basic ((s.after c r.past).request c a) (by rw [hd]; rfl)]
    exact Request.basic?_of_isBare hc rfl (hpast a (hd ▸ hmem))
  · have htoken : IsServed tokenPath := by
      show "/api/".toList <+: _
      decide
    rw [hborne.basic (loginRequest c credentials) (by rw [hd]; rfl)]
    exact Request.basic?_of_isBare hc rfl htoken

end Session

/-- **Requests carry the token of the session, and only while it is live.** Whatever is
done on a desk at a plain server, and whatever the server replies: all that arrives was sent
in the run, and each request carries the token that it may carry at that moment, beside the
name and the password in the address of the server. At a bare server there are none, and
nothing but the token says who asks. -/
theorem Desk.authorized_run {c : Setup} (hc : c.isPlain = true) (d : Desk) (acts : List Act) :
    (d.run c acts).session.server.arrivals =
      d.session.server.arrivals ++ (d.session.wire c (d.trace c acts)).map (·.arrival) ∧
    ∀ r ∈ d.session.wire c (d.trace c acts),
      r.deed :: r.past <:+ d.trace c acts ∧ d.session.Borne c r ∧
        (c.isBare = true → d.session.Authorized c r) := by
  refine ⟨by rw [session_run, Session.arrivals_after], fun r hr => ?_⟩
  have hborne := Session.borne_of_mem_wire hc hr
  refine ⟨(Session.mem_wire hr).1, hborne, fun hbare => hborne.authorized ?_⟩
  exact Session.basic_of_mem_wire hbare (fun _ => isServed_of_mem_trace) hr

/-- A desk with a token that has blanks around it, at a server that denies the first call. -/
def Desk.deniedFirst : Desk :=
  .start (.memory (some " a.e30.c ")) ⟨true, [.answer ⟨401, [], true⟩], []⟩

/-- Two calls, of which the first carries the token. -/
def Desk.twoCalls : List Act :=
  [.useUsers .banner (.query []), .useRecords .banner (.get "1")]

theorem Desk.authorized_run_denied :
    Setup.loopback.isPlain = true ∧ Setup.loopback.isBare = true ∧
    (deniedFirst.session.wire .loopback (deniedFirst.trace .loopback twoCalls)).map
      (·.arrival.auth) = [some "Bearer a.e30.c", none] ∧
    ∀ r ∈ deniedFirst.session.wire .loopback (deniedFirst.trace .loopback twoCalls),
      deniedFirst.session.Authorized .loopback r := by
  refine ⟨by decide, by decide, by decide +kernel, fun r hr => ?_⟩
  exact ((Desk.authorized_run (by decide) deniedFirst twoCalls).2 r hr).2.2 (by decide)

end ProxyConsole
