/-
# Denials

A call that is denied at a plain server ends the session once: the slot is
cleared, the user is sent to the login page, and the call fails as one that the
session is not good for, of which the user is told nothing more. No other reply
does any of this, nor does a failure that comes of it look like a denial. An
operation of several calls stops at the first denial, so what holds of a call
holds of every operation.

Key definitions: `Server.given`, `Session.FollowsScript`, `Session.denials`,
`Session.Escalates`, `EscalatesOnce`.
Key theorems: `Session.follows_script`, `Session.escalates_ask`, `Session.Escalates.report`,
`Session.Escalates.after_ok`, `escalates_once`.
-/
import ProxyConsole.Proofs.Deed
import ProxyConsole.Proofs.Plain
import ProxyConsole.Proofs.Session

namespace ProxyConsole

/-! ### The replies of a server -/

/-- That a body is left out of an answer does not change the status. -/
theorem Answer.status_delivered (a : Answer) : a.delivered.status = a.status := by
  unfold delivered
  split
  · rfl
  · rfl

/-- Whether a reply denies the call. -/
def Reply.isDenial : Reply → Bool
  | .answer a => a.status == unauthorized
  | _ => false

namespace Server

variable {v w x : Server}

/-- The replies that a server gave before it became another: one to every request that
arrived, from its script and then the last reply. -/
def given (v w : Server) : List Reply :=
  (List.range (w.arrivals.length - v.arrivals.length)).map fun i => v.replies.getD i lastReply

/-- A server becomes another by taking requests. -/
def Later (v w : Server) : Prop :=
  ∃ n, w.arrivals.length = v.arrivals.length + n ∧ w.replies = v.replies.drop n

theorem Later.refl (v : Server) : v.Later v := ⟨0, rfl, rfl⟩

theorem Later.trans : v.Later w → w.Later x → v.Later x := by
  rintro ⟨m, hm, rm⟩ ⟨n, hn, rn⟩
  refine ⟨m + n, ?_, ?_⟩
  · rw [hn, hm, Nat.add_assoc]
  · rw [rn, rm, List.drop_drop]

theorem later_take (k : Call) (v : Server) : v.Later (v.take k).2 := by
  unfold take
  split
  · exact ⟨1, List.length_append, rfl⟩
  · exact Later.refl v

theorem given_self (v : Server) : v.given v = [] := by
  rw [given, Nat.sub_self]
  rfl

/-- To a request that is taken, the next reply is given. -/
theorem given_take (k : Call) (h : v.listening = true) :
    v.given (v.take k).2 = [v.replies.headD lastReply] := by
  have hn : (v.arrivals ++ [k.arrival]).length - v.arrivals.length = 1 := by simp
  rw [take, if_pos h, given]
  dsimp only
  rw [hn, List.range_one, List.map_singleton]
  cases v.replies <;> rfl

/-- The replies given in two stretches are those of the one and then those of the other. -/
theorem given_append (h₁ : v.Later w) (h₂ : w.Later x) : v.given x = v.given w ++ w.given x := by
  obtain ⟨m, hm, rm⟩ := h₁
  obtain ⟨n, hn, -⟩ := h₂
  have h₁ : x.arrivals.length - v.arrivals.length = m + n := by omega
  have h₂ : w.arrivals.length - v.arrivals.length = m := by omega
  have h₃ : x.arrivals.length - w.arrivals.length = n := by omega
  rw [given, given, given, h₁, h₂, h₃, List.range_add, List.map_append, List.map_map]
  congr 1
  refine List.map_congr_left fun i _ => ?_
  rw [Function.comp_apply, rm, List.getD_eq_getElem?_getD, List.getD_eq_getElem?_getD,
    List.getElem?_drop]

end Server

namespace Session

/-- How many denials the server gave between two sessions. -/
def denials (s t : Session) : Nat :=
  (s.server.given t.server).countP Reply.isDenial

theorem denials_of_server {s t : Session} (h : t.server = s.server) : s.denials t = 0 := by
  rw [denials, h, Server.given_self]
  rfl

theorem denials_add {s t u : Session} (h₁ : s.server.Later t.server)
    (h₂ : t.server.Later u.server) : s.denials u = s.denials t + t.denials u := by
  rw [denials, Server.given_append h₁ h₂, List.countP_append]
  rfl

/-! ### One call -/

theorem later_sent (c : Setup) (a : Ask) (s : Session) :
    s.server.Later (s.sent c a).server := by
  rw [sent, server_send]
  cases (s.request c a).call with
  | ok k => exact Server.later_take k s.server
  | error cause => exact Server.Later.refl s.server

/-- Nothing that is shown changes when an answer comes. -/
theorem notices_sent {c : Setup} {a : Ask} {s : Session} {r : Answer}
    (h : s.answer? c a = some r) : (s.sent c a).notices = s.notices := by
  have hok : (s.send c (s.request c a)).1 = .ok r := by rw [send_of_answer h]
  rw [sent, notices_send, isGivenUp_of_ok hok]
  rfl

/-- How what a session sends is answered out of the script of the server. A request that can be
sent to a server that listens takes the next reply: the answer of the script, as it arrives, or
none. Any other request has no answer and leaves the server as it is. A call is answered as its
request is. -/
structure FollowsScript (c : Setup) : Prop where
  taken : ∀ (r : Request) path (s : Session) k, r.address = c.address path → r.call = .ok k →
    s.server.listening = true →
    (s.send c r).1.toOption = (s.server.replies.headD Server.lastReply).delivered.answer? ∧
      (s.send c r).2.server.replies = s.server.replies.drop 1
  unsent : ∀ (r : Request) (s : Session) cause, r.call = .error cause →
    (s.send c r).1.toOption = none ∧ (s.send c r).2.server = s.server
  deaf : ∀ (r : Request) (s : Session), s.server.listening = false →
    (s.send c r).1.toOption = none ∧ (s.send c r).2.server = s.server
  call : ∀ (a : Ask) (s : Session), s.answer? c a = (s.send c (s.request c a)).1.toOption ∧
    (s.ask c a).2.server = (s.send c (s.request c a)).2.server

/-- **A plain server answers by its script.** -/
theorem follows_script {c : Setup} (hc : c.isPlain = true) : FollowsScript c where
  taken r path s k ha hk hl := by
    have hs : k.url.isHttps = false := Request.call_of_isPlain hc ha hk
    rw [(send_of_call hk s).1, exchange_fst, Server.take_fst hl hs, server_send, hk]
    refine ⟨rfl, ?_⟩
    dsimp only
    rw [Server.take, if_pos hl]
  unsent r s cause hk := by
    rw [send_of_error hk]
    exact ⟨rfl, rfl⟩
  deaf r s hl := by
    have hl : ¬ s.server.listening = true := by simp [hl]
    rw [server_send]
    cases hk : r.call with
    | error cause =>
      rw [send_of_error hk]
      exact ⟨rfl, rfl⟩
    | ok k =>
      rw [(send_of_call hk s).1, exchange_fst]
      dsimp only
      rw [Server.take, if_neg hl]
      exact ⟨rfl, rfl⟩
  call a s := ⟨rfl, server_ask c a s⟩

/-- A call that a plain server takes is answered by the next reply of its script. -/
theorem answer?_of_call {c : Setup} (hc : c.isPlain = true) {a : Ask} {s : Session} {k : Call}
    (hk : (s.request c a).call = .ok k) (hl : s.server.listening = true) :
    s.answer? c a = (s.server.replies.headD Server.lastReply).delivered.answer? :=
  ((follows_script hc).taken _ a.path s k rfl hk hl).1

/-- At a plain server the reply to a call is a denial when its answer is. -/
theorem denials_sent {c : Setup} (hc : c.isPlain = true) (a : Ask) (s : Session) :
    s.denials (s.sent c a) = if s.isDenied c a then 1 else 0 := by
  cases hk : (s.request c a).call with
  | error cause =>
    unfold isDenied answer? sent denials
    rw [send_of_error hk, Server.given_self]
    rfl
  | ok k =>
    have ht : (s.sent c a).server = (s.server.take k).2 := by
      rw [sent, (send_of_call hk s).2, server_exchange]
    unfold isDenied denials
    rw [ht]
    by_cases hl : s.server.listening = true
    · rw [answer?_of_call hc hk hl, Server.given_take k hl, List.countP_singleton]
      cases s.server.replies.headD Server.lastReply with
      | answer a =>
        rw [Reply.delivered, Reply.answer?, Option.any_some, Answer.status_delivered]
        rfl
      | drop => rfl
      | hang => rfl
    · have hn : s.answer? c a = none :=
        ((follows_script hc).deaf _ s (Bool.eq_false_iff.mpr hl)).1
      rw [hn, Server.take, if_neg hl, Server.given_self]
      rfl

/-- What an operation makes of the replies that the server gave to it. It was denied once
at most. For a denial the slot is cleared once and the user is sent to the login page
once; the operation fails as one that the session is not good for, and what is shown
stays. Without a denial nothing is cleared, nobody is sent anywhere, and no failure looks
like a denial. -/
structure Escalates (s : Session) (r : Except Failure α × Session) : Prop where
  later : s.server.Later r.2.server
  once : s.denials r.2 ≤ 1
  clears : r.2.clears = s.clears + s.denials r.2
  redirects : r.2.redirects = s.redirects ++ List.replicate (s.denials r.2) .login
  denied : s.denials r.2 = 1 →
    r.1 = .error .permission ∧ r.2.route = .login ∧ r.2.notices = s.notices
  spared : s.denials r.2 = 0 → ∀ f, r.1 = .error f → f.payload.isUnauthorized = false
  quiet : ∀ a, r.1 = .ok a → r.2.notices = s.notices

namespace Escalates

variable {s t : Session} {r : Except Failure α × Session}

theorem denials_of_ok (h : Escalates s r) {a : α} (ha : r.1 = .ok a) : s.denials r.2 = 0 := by
  rcases Nat.le_one_iff_eq_zero_or_eq_one.mp h.once with h₀ | h₁
  · exact h₀
  · have hd := (h.denied h₁).1
    rw [ha] at hd
    cases hd

/-- Only for a permission that is missing was there a denial. -/
theorem denials_of_error (h : Escalates s r) {f : Failure} (hf : r.1 = .error f)
    (hp : f.isPermission = false) : s.denials r.2 = 0 := by
  rcases Nat.le_one_iff_eq_zero_or_eq_one.mp h.once with h₀ | h₁
  · exact h₀
  · have hd := (h.denied h₁).1
    rw [hf] at hd
    cases hd
    cases hp

/-- An operation without a denial that clears nothing and sends the user nowhere. -/
theorem of_spared {u : Except Failure α} (hl : s.server.Later t.server) (hd : s.denials t = 0)
    (hc : t.clears = s.clears) (hr : t.redirects = s.redirects)
    (hn : ∀ a, u = .ok a → t.notices = s.notices)
    (hf : ∀ f, u = .error f → f.payload.isUnauthorized = false) : Escalates s (u, t) := by
  refine ⟨hl, ?_, ?_, ?_, ?_, fun _ => hf, hn⟩
  · rw [hd]
    exact Nat.zero_le 1
  · rw [hd, hc]
    rfl
  · rw [hd, hr]
    exact (List.append_nil _).symm
  · intro h₁
    rw [hd] at h₁
    cases h₁

/-- An operation of which nothing arrives. -/
theorem of_server {a : α} (hs : t.server = s.server) (hc : t.clears = s.clears)
    (hr : t.redirects = s.redirects) (hn : t.notices = s.notices) : Escalates s (.ok a, t) :=
  of_spared (hs ▸ Server.Later.refl s.server) (denials_of_server hs) hc hr (fun _ _ => hn)
    (by rintro f ⟨⟩)

theorem ok (s : Session) (a : α) : Escalates s (.ok a, s) :=
  of_server rfl rfl rfl rfl

/-- What is made of a success may fail in its own ways, but not as a denial. -/
theorem bind (h : Escalates s r) {g : α → Except Failure β}
    (hg : ∀ a f, r.1 = .ok a → g a = .error f → f.payload.isUnauthorized = false) :
    Escalates s (r.1.bind g, r.2) := by
  refine ⟨h.later, h.once, h.clears, h.redirects, ?_, ?_, ?_⟩
  · intro h₁
    obtain ⟨hp, hr, hn⟩ := h.denied h₁
    refine ⟨?_, hr, hn⟩
    rw [hp]
    rfl
  · intro h₀ f hf
    cases hr : r.1 with
    | ok a =>
      rw [hr] at hf
      exact hg a f hr hf
    | error e =>
      rw [hr] at hf
      cases hf
      exact h.spared h₀ _ hr
  · intro b hb
    cases hr : r.1 with
    | ok a => exact h.quiet a hr
    | error e =>
      rw [hr] at hb
      cases hb

theorem map (h : Escalates s r) (g : α → β) : Escalates s (r.1.map g, r.2) := by
  have hm : r.1.map g = r.1.bind fun a => .ok (g a) := by
    cases r.1 <;> rfl
  rw [hm]
  refine h.bind ?_
  rintro a f - ⟨⟩

/-- A failure is passed on as it is. -/
theorem error {f : Failure} (h : Escalates s ((.error f, t) : Except Failure α × Session)) :
    Escalates s ((.error f, t) : Except Failure β × Session) := by
  refine h.bind (g := fun _ => .error f) ?_
  rintro a e ⟨⟩

/-- What follows a success is all that counts. -/
theorem after_ok {a : α} (h : Escalates s ((.ok a, t) : Except Failure α × Session))
    {q : Except Failure β × Session} (hq : Escalates t q) : Escalates s q := by
  have hd : s.denials q.2 = t.denials q.2 := by
    rw [denials_add h.later hq.later, h.denials_of_ok rfl, Nat.zero_add]
  have h₀ : s.denials t = 0 := h.denials_of_ok rfl
  have hn : t.notices = s.notices := h.quiet a rfl
  have hc : t.clears = s.clears := by
    have := h.clears
    rw [h₀] at this
    exact this
  have hr : t.redirects = s.redirects := by
    have := h.redirects
    rw [h₀] at this
    rw [this]
    exact List.append_nil _
  refine ⟨h.later.trans hq.later, ?_, ?_, ?_, ?_, ?_, ?_⟩
  · rw [hd]
    exact hq.once
  · rw [hd, hq.clears, hc]
  · rw [hd, hq.redirects, hr]
  · intro h₁
    obtain ⟨hp, hl, hm⟩ := hq.denied (hd ▸ h₁)
    exact ⟨hp, hl, hm.trans hn⟩
  · intro h₁
    exact hq.spared (hd ▸ h₁)
  · intro b hb
    exact (hq.quiet b hb).trans hn

theorem andThen (h : Escalates s r) {go : α → Session → Except Failure β × Session}
    (hgo : ∀ a t, Escalates t (go a t)) : Escalates s (Session.andThen r go) := by
  obtain ⟨f | a, t⟩ := r
  · exact h.error
  · exact h.after_ok (hgo a t)

/-- To go to another place than the logout one clears nothing. -/
theorem visit (c : Setup) {target : Route} (ht : target ≠ .logout) (s : Session) (a : α) :
    Escalates s (.ok a, (s.navigate c target).2) := by
  unfold navigate
  split
  · exact of_server rfl rfl rfl rfl
  · rw [if_neg ht]
    exact of_server rfl rfl rfl rfl

/-- The user is told of every failure but a denial, which has ended the session already. -/
theorem report (h : Escalates s r) : Escalates s (Collection.report .banner r) := by
  obtain ⟨f | a, t⟩ := r
  · cases hp : f.isPermission with
    | true =>
      rw [Collection.report_error, Handler.handle, if_pos hp]
      exact h
    | false =>
      have h₀ : s.denials t = 0 := h.denials_of_error rfl hp
      have hf : f.payload.isUnauthorized = false := h.spared h₀ f rfl
      have ht : Handler.banner.handle f t = { t with notices := t.notices.fail f.payload } := by
        simp only [Handler.handle, fail, hp, hf, Bool.false_eq_true, ↓reduceIte]
      have hc := h.clears
      have hr := h.redirects
      simp only [h₀, Nat.add_zero, List.replicate_zero, List.append_nil] at hc hr
      rw [Collection.report_error, ht]
      exact of_spared h.later h₀ hc hr (by rintro a ⟨⟩) (h.spared h₀)
  · exact h

end Escalates

theorem isUnauthorized_unanswered (cause : Cause) :
    (Failure.unanswered cause).payload.isUnauthorized = false := rfl

theorem escalates_ask {c : Setup} (hc : c.isPlain = true) (a : Ask) (s : Session) :
    Escalates s (s.ask c a) := by
  have hk := keeps_sent c a s
  have hl := later_sent c a s
  have hd := denials_sent hc a s
  have ho := ask_outcome c a s
  unfold isDenied at hd
  generalize s.ask c a = x at ho ⊢
  cases ho with
  | unanswered cause h =>
    rw [h] at hd
    refine .of_spared hl hd hk.clears hk.redirects (by rintro r ⟨⟩) ?_
    rintro f ⟨⟩
    exact isUnauthorized_unanswered cause
  | denied r h hu =>
    rw [h, Option.any_some, if_pos (by simpa using hu)] at hd
    have hd : s.denials (s.sent c a).expel = 1 := hd
    refine ⟨hl, ?_, ?_, ?_, fun _ => ⟨rfl, rfl, notices_sent h⟩, ?_, by rintro r ⟨⟩⟩
    · exact Nat.le_of_eq hd
    · rw [hd, ← hk.clears]
      rfl
    · rw [hd, ← hk.redirects]
      rfl
    · intro h₀
      rw [hd] at h₀
      cases h₀
  | success r h hr =>
    have hu : r.status ≠ unauthorized := status_ne_of_isSuccess hr
    rw [h, Option.any_some, if_neg (by simpa using hu)] at hd
    exact .of_spared hl hd hk.clears hk.redirects (fun _ _ => notices_sent h) (by rintro f ⟨⟩)
  | failure r h hu hr =>
    rw [h, Option.any_some, if_neg (by simpa using hu)] at hd
    refine .of_spared hl hd hk.clears hk.redirects (by rintro r ⟨⟩) ?_
    rintro f ⟨⟩
    have hp := Failure.payload_unauthorized_ofAnswer r.status r.json
    rw [← Bool.not_eq_true, hp]
    exact hu

theorem isSuccess_of_ask {c : Setup} {a : Ask} {s : Session} {r : Answer}
    (h : (s.ask c a).1 = .ok r) : r.isSuccess = true := by
  have ho := ask_outcome c a s
  generalize s.ask c a = x at h ho
  cases ho with
  | unanswered => cases h
  | denied => cases h
  | success r h' hr =>
    cases h
    exact hr
  | failure => cases h

/-- That a success holds nothing good is no denial. -/
theorem isUnauthorized_decode {read : Outline → Except Mistake α} {r : Answer} {f : Failure}
    (hr : r.isSuccess = true) (hf : r.decode read = .error f) :
    f.payload.isUnauthorized = false := by
  obtain ⟨-, m, -, rfl⟩ | ⟨-, rfl⟩ := Answer.decode_eq_error hf
  · simpa [Failure.payload, Failure.payloadAt, Payload.isUnauthorized] using status_ne_of_isSuccess hr
  · exact isUnauthorized_unanswered .cutOff

variable {c : Setup} (hc : c.isPlain = true)
include hc

theorem escalates_fetch (read : Outline → Except Mistake α) (a : Ask) (s : Session) :
    Escalates s (s.fetch c read a) :=
  (escalates_ask hc a s).bind fun _ _ hr hf => isUnauthorized_decode (isSuccess_of_ask hr) hf

theorem escalates_tell (a : Ask) (s : Session) : Escalates s (s.tell c a) :=
  (escalates_ask hc a s).map _

end Session

open Session (Escalates)

/-! ### Collections -/

namespace Collection

variable {E : Type} [Entity E]

/-- An update answers like a call whose failure is handed over. -/
theorem update_eq_report (c : Setup) (h : Handler) (d : Edit E) (s : Session) :
    ((update c h d s).1, (update c h d s).2.2) =
      ((report h (s.fetch c (Entity.read (E := E)) (updateAsk d))).1.map Entity.settle,
        (report h (s.fetch c (Entity.read (E := E)) (updateAsk d))).2) := by
  unfold update
  generalize s.fetch c (Entity.read (E := E)) (updateAsk d) = r
  obtain ⟨f | e, t⟩ := r
  · rfl
  · rfl

theorem removeFrom_eq_report (c : Setup) (h : Handler) (kept : List E) (id : String)
    (s : Session) :
    ((removeFrom c h kept id s).1, (removeFrom c h kept id s).2.2) =
      report h (s.tell c (.delete (Entity.itemPath E id))) := by
  unfold removeFrom
  generalize report h (s.tell c (.delete (Entity.itemPath E id))) = r
  obtain ⟨f | _, t⟩ := r
  · rfl
  · rfl

variable {c : Setup} (hc : c.isPlain = true)
include hc

theorem escalates_update (d : Edit E) (s : Session) :
    Escalates s ((update c .banner d s).1, (update c .banner d s).2.2) := by
  rw [update_eq_report]
  exact (Session.escalates_fetch hc _ _ s).report.map _

theorem escalates_removeFrom (kept : List E) (id : String) (s : Session) :
    Escalates s ((removeFrom c .banner kept id s).1, (removeFrom c .banner kept id s).2.2) := by
  rw [removeFrom_eq_report]
  exact (Session.escalates_tell hc _ s).report

end Collection

/-! ### Pages -/

section

variable {c : Setup} (hc : c.isPlain = true)
include hc

theorem RecordScreen.escalates_load (id : String) (s : Session) :
    Escalates s (RecordScreen.load c id s) := by
  rw [load_eq_andThen]
  refine Escalates.andThen (Session.escalates_fetch hc _ _ s).report fun record t => ?_
  refine Escalates.andThen (Session.escalates_fetch hc _ _ t).report fun users u => ?_
  exact .ok u _

theorem RecordScreen.escalates_change (p : RecordScreen) (edit : Record → Record)
    (g : Record → α) (s : Session) :
    Escalates s ((p.change c edit s).1.map g, (p.change c edit s).2.2) :=
  (Collection.escalates_update hc ((Edit.begin p.record).apply edit) s).map g

theorem RecordScreen.escalates_delete (p : RecordScreen) (s : Session) :
    Escalates s (p.delete c s) := by
  rw [delete_eq_andThen]
  exact Escalates.andThen (Session.escalates_tell hc _ s).report fun _ t =>
    .visit c Route.noConfusion t _

theorem UserScreen.escalates_load (id : String) (s : Session) :
    Escalates s (UserScreen.load c id s) := by
  rw [load_eq_andThen]
  refine Escalates.andThen (Session.escalates_fetch hc _ _ s).report fun user t => ?_
  refine Escalates.andThen (Session.escalates_fetch hc _ _ t).report fun records u => ?_
  exact .ok u _

theorem UserScreen.escalates_delete (p : UserScreen) (s : Session) :
    Escalates s (p.delete c s) := by
  rw [delete_eq_andThen]
  exact Escalates.andThen (Session.escalates_tell hc _ s).report fun _ t =>
    .visit c Route.noConfusion t _

/-- The page tells of a failure in its own words; what counts is what came of the call. -/
theorem UserScreen.escalates_submitPassword (p : UserScreen) (s : Session) :
    Escalates s (if p.password ≠ p.confirmation then .ok ()
      else (Collection.postPassword c p.user.id p.password s).1, (p.submitPassword c s).2) := by
  have hp : Escalates s (Collection.postPassword c p.user.id p.password s) :=
    Session.escalates_tell hc _ s
  unfold UserScreen.submitPassword
  by_cases hm : p.password ≠ p.confirmation
  · rw [if_pos hm, if_pos hm]
    exact .ok s ()
  · rw [if_neg hm, if_neg hm]
    generalize Collection.postPassword c p.user.id p.password s = r at hp ⊢
    obtain ⟨f | _, t⟩ := r
    · exact hp
    · exact hp

end

/-! ### The console -/

namespace Console

/-- What came of the call that a check makes, if it makes one. -/
def checked (c : Setup) (k : Console) : Except Failure Unit :=
  if k.session.isLive c && !k.infoRequested then (fetchInfo c k.session).1.map fun _ => ()
  else .ok ()

variable {c : Setup}

/-- What a live session does on a page is all that counts. -/
theorem escalates_within {k : Console} (hk : k.session.isLive c = true) {target : Route}
    (ht : target ≠ .logout) {go : Session → Except Failure α × Session}
    (hgo : ∀ s, Escalates s (go s)) :
    Escalates k.session ((k.within c target go).1, (k.within c target go).2.session) := by
  rw [within_eq_andThen, enter_eq_ok hk ht]
  have he : Escalates k.session (.ok (), { k.session with route := target }) :=
    .of_server rfl rfl rfl rfl
  exact he.andThen fun _ t => hgo t

theorem escalates_onward {place : E → Route} (hp : ∀ e, place e ≠ .logout) {s : Session}
    {r : Except Failure E × Session} (hr : Escalates s r) : Escalates s (onward c place r) := by
  rw [onward_eq_andThen]
  exact hr.andThen fun e t => .visit c (hp e) t _

variable (hc : c.isPlain = true)
include hc

theorem escalates_checkLive (k : Console) :
    Escalates k.session (k.checked c, (k.checkLive c).2.session) := by
  have hf : Escalates k.session (fetchInfo c k.session) := Session.escalates_fetch hc _ _ _
  unfold checked checkLive
  cases k.session.isLive c with
  | false => exact .ok k.session ()
  | true =>
    cases k.infoRequested with
    | true => exact .ok k.session ()
    | false =>
      simp only [Bool.not_false, Bool.and_self, ↓reduceIte, Bool.false_eq_true]
      generalize fetchInfo c k.session = r at hf ⊢
      obtain ⟨f | info, t⟩ := r
      · exact hf.map _
      · exact hf.map _

end Console

/-! ### Every operation -/

/-- Every operation that makes calls escalates a denial once, and nothing else: the calls
themselves, the uses of a collection of any entities, the pages, and the question what the
server is. The pages of the console are entered by a live session; without one nothing is
sent. -/
structure EscalatesOnce (c : Setup) : Prop where
  ask : ∀ a s, Escalates s (s.ask c a)
  get : ∀ (E : Type) [Entity E] id s, Escalates s (Collection.get E c .banner id s)
  query : ∀ (E : Type) [Entity E] filter s, Escalates s (Collection.query E c .banner filter s)
  create : ∀ (E : Type) [Entity E] draft s, Escalates s (Collection.create E c .banner draft s)
  update : ∀ (E : Type) [Entity E] (d : Edit E) s, Escalates s
    ((Collection.update c .banner d s).1, (Collection.update c .banner d s).2.2)
  updateWith : ∀ (E : Type) [Entity E] (change : E → E) e s, Escalates s
    ((Collection.updateWith c .banner change e s).1, (Collection.updateWith c .banner change e s).2.2)
  remove : ∀ (E : Type) [Entity E] (e : E) s, Escalates s (Collection.remove c .banner e s)
  removeFrom : ∀ (E : Type) [Entity E] (kept : List E) id s, Escalates s
    ((Collection.removeFrom c .banner kept id s).1, (Collection.removeFrom c .banner kept id s).2.2)
  changePassword : ∀ id password s,
    Escalates s (Collection.changePassword c .banner id password s)
  loadRecord : ∀ id s, Escalates s (RecordScreen.load c id s)
  setBlacklist : ∀ (p : RecordScreen) blacklist s,
    Escalates s ((p.setBlacklist c blacklist s).1, (p.setBlacklist c blacklist s).2.2)
  saveOwner : ∀ (p : RecordScreen) email s,
    Escalates s ((p.saveOwner c email s).1, (p.saveOwner c email s).2.2)
  clearClients : ∀ (p : RecordScreen) s,
    Escalates s ((p.clearClients c s).1, (p.clearClients c s).2.2)
  deleteRecord : ∀ (p : RecordScreen) s, Escalates s (p.delete c s)
  loadUser : ∀ id s, Escalates s (UserScreen.load c id s)
  submitPassword : ∀ (p : UserScreen) s, Escalates s
    (if p.password ≠ p.confirmation then .ok ()
      else (Collection.postPassword c p.user.id p.password s).1, (p.submitPassword c s).2)
  deleteUser : ∀ (p : UserScreen) s, Escalates s (p.delete c s)
  fetchInfo : ∀ s, Escalates s (Console.fetchInfo c s)
  checkLive : ∀ k : Console, Escalates k.session (k.checked c, (k.checkLive c).2.session)
  records : ∀ k : Console, k.session.isLive c = true →
    Escalates k.session ((k.records c).1, (k.records c).2.session)
  users : ∀ k : Console, k.session.isLive c = true →
    Escalates k.session ((k.users c).1, (k.users c).2.session)
  openRecord : ∀ (k : Console) id, k.session.isLive c = true →
    Escalates k.session ((k.openRecord c id).1, (k.openRecord c id).2.session)
  openUser : ∀ (k : Console) id, k.session.isLive c = true →
    Escalates k.session ((k.openUser c id).1, (k.openUser c id).2.session)
  newRecord : ∀ (k : Console) draft, k.session.isLive c = true →
    Escalates k.session ((k.newRecord c draft).1, (k.newRecord c draft).2.session)
  newUser : ∀ (k : Console) draft, k.session.isLive c = true →
    Escalates k.session ((k.newUser c draft).1, (k.newUser c draft).2.session)

/-- **A denial ends the session once, and nothing else does.** -/
theorem escalates_once {c : Setup} (hc : c.isPlain = true) : EscalatesOnce c where
  ask := Session.escalates_ask hc
  get _ _ _ s := (Session.escalates_fetch hc _ _ s).report
  query _ _ _ s := (Session.escalates_fetch hc _ _ s).report
  create _ _ _ s := (Session.escalates_fetch hc _ _ s).report
  update _ _ := Collection.escalates_update hc
  updateWith _ _ change e := Collection.escalates_update hc ((Edit.begin e).apply change)
  remove _ _ _ s := (Session.escalates_tell hc _ s).report
  removeFrom _ _ := Collection.escalates_removeFrom hc
  changePassword _ _ s := (Session.escalates_tell hc _ s).report
  loadRecord := RecordScreen.escalates_load hc
  setBlacklist p _ := RecordScreen.escalates_change hc p _ _
  saveOwner p _ := RecordScreen.escalates_change hc p _ _
  clearClients p := RecordScreen.escalates_change hc p _ _
  deleteRecord := RecordScreen.escalates_delete hc
  loadUser := UserScreen.escalates_load hc
  submitPassword := UserScreen.escalates_submitPassword hc
  deleteUser := UserScreen.escalates_delete hc
  fetchInfo := Session.escalates_fetch hc _ _
  checkLive := Console.escalates_checkLive hc
  records _ hk := Console.escalates_within hk Route.noConfusion fun s =>
    (Session.escalates_fetch hc _ _ s).report
  users _ hk := Console.escalates_within hk Route.noConfusion fun s =>
    (Session.escalates_fetch hc _ _ s).report
  openRecord _ id hk := Console.escalates_within hk Route.noConfusion
    (RecordScreen.escalates_load hc id)
  openUser _ id hk := Console.escalates_within hk Route.noConfusion
    (UserScreen.escalates_load hc id)
  newRecord _ _ hk := Console.escalates_within hk Route.noConfusion fun s =>
    Console.escalates_onward (fun _ => Route.noConfusion)
      (Session.escalates_fetch hc _ _ s).report
  newUser _ _ hk := Console.escalates_within hk Route.noConfusion fun s =>
    Console.escalates_onward (fun _ => Route.noConfusion)
      (Session.escalates_fetch hc _ _ s).report

/-- A session at a server that denies its first call. -/
def Session.deniedFirst : Session :=
  .start (.memory (some "a.e30.c")) ⟨true, [.answer ⟨401, [], true⟩], []⟩

theorem escalates_once_denied :
    Setup.loopback.isPlain = true ∧
    Session.deniedFirst.denials
      (Collection.get Record .loopback .banner "1" Session.deniedFirst).2 = 1 ∧
    Session.deniedFirst.Escalates
      (Collection.get Record .loopback .banner "1" Session.deniedFirst) :=
  ⟨by decide, by decide +kernel, (escalates_once (by decide)).get Record "1" Session.deniedFirst⟩

end ProxyConsole
