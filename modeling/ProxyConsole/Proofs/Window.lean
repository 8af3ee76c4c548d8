/-
# How long a success is shown

A success is shown from the instant at which it was told until its window has
passed, unless another success or a dismissal comes before; an error is shown
until it is dismissed, whatever succeeds and however long it takes. So the line
of a success depends on two things only, the last success that was not dismissed
and the instant of it, though it is tasks that take successes away: of the tasks
that were started one at most is asleep, the one of the success that is shown.

Signals are written with the latest in front.

Key definitions: `lastSince`, `Signal`, `Signal.lastSuccess?`, `Notices.after`,
`Notices.Stage`, `Notices.Exact`, `Session.news`.
Key theorems: `Notices.Stands.heard`, `Notices.exact_after`, `Session.hears_does`,
`Session.window_exact`.
-/
import ProxyConsole.Proofs.Deed
import ProxyConsole.Proofs.Login
import ProxyConsole.Proofs.Plain

namespace ProxyConsole

/-! ### The latest of its kind -/

/-- The latest result in a row, the latest element in front, since one that takes all back. -/
def lastSince (isEnd : α → Bool) (f : α → Option β) (past : List α) : Option β :=
  (past.takeWhile fun x => !isEnd x).findSome? f

theorem lastSince_cons {isEnd : α → Bool} {f : α → Option β} {x : α} {past : List α} :
    lastSince isEnd f (x :: past) =
      if isEnd x then none else (f x).or (lastSince isEnd f past) := by
  unfold lastSince
  cases hx : isEnd x with
  | true => simp [hx]
  | false =>
    simp only [List.takeWhile_cons, hx, Bool.not_false, if_true, List.findSome?_cons]
    cases f x with
    | none => rfl
    | some b => rfl

/-- It is what is left when the elements are gone through, the latest last. -/
theorem lastSince_eq_foldr {isEnd : α → Bool} {f : α → Option β} : ∀ past : List α,
    lastSince isEnd f past =
      past.foldr (fun x b => if isEnd x then none else (f x).or b) none
  | [] => rfl
  | x :: past => by rw [lastSince_cons, lastSince_eq_foldr past, List.foldr_cons]

/-! ### What happens to the notices -/

/-- The line that tells the user of a failure; none tells of one that was denied. -/
def Payload.line? (p : Payload) : Option String :=
  if p.isUnauthorized then none else some p.shown

/-- What can happen to the notices. -/
inductive Signal where
  | succeed (text : String)
  | fail (p : Payload)
  | dismiss
  | wait (ms : Nat)

namespace Signal

/-- How long a signal takes. -/
def lasts : Signal → Nat
  | wait ms => ms
  | _ => 0

/-- The instant after a row of signals. -/
def clock : List Signal → Nat
  | [] => 0
  | x :: past => clock past + x.lasts

/-- The last success, unless it was dismissed, and the instant at which it was told. -/
def lastSuccess? : List Signal → Option (String × Nat)
  | [] => none
  | succeed text :: past => some (text, clock past)
  | dismiss :: _ => none
  | _ :: past => lastSuccess? past

def isDismiss : Signal → Bool
  | dismiss => true
  | _ => false

/-- The line that a signal tells of a failure, if any. -/
def line? : Signal → Option String
  | fail p => p.line?
  | _ => none

/-- The line of the last error since the last dismissal. -/
def lastLine? (past : List Signal) : Option String :=
  lastSince isDismiss line? past

end Signal

namespace Notices

/-- The notices after a signal at an instant. -/
def heard (window : Option Nat) (now : Nat) (n : Notices) : Signal → Notices
  | .succeed text => n.succeed window now text
  | .fail p => if p.isUnauthorized then n else n.fail p
  | .dismiss => n.dismiss
  | .wait ms => n.elapse (now + ms)

/-- The notices after a row of signals. -/
def after (window : Option Nat) : List Signal → Notices
  | [] => empty
  | x :: past => (after window past).heard window (Signal.clock past) x

/-! ### The tasks -/

/-- How far the last success has come at an instant: there is none; it stays for ever; its
task is asleep, and no other is; or its task has taken it away. -/
inductive Stage (now : Nat) (n : Notices) : Option Nat → Option (String × Nat) → Prop where
  | quiet {window : Option Nat} : n.success = none → n.asleep = [] → Stage now n window none
  | lasting {text : String} {since : Nat} : n.success = some text → n.asleep = [] →
      Stage now n none (some (text, since))
  | ticking {w since : Nat} {text : String} (number : Nat) : n.success = some text →
      n.asleep = [⟨number, n.generation, since + w⟩] → n.latest = some number →
      Stage now n (some w) (some (text, since))
  | passed {w since : Nat} {text : String} : n.success = none → n.asleep = [] →
      since + w ≤ now → Stage now n (some w) (some (text, since))

/-- How the notices stand at an instant. A task that is started next has a number of its own. -/
structure Stands (window : Option Nat) (now : Nat) (n : Notices) (last : Option (String × Nat)) :
    Prop where
  stage : Stage now n window last
  fresh : ∀ number, n.latest = some number → number < n.started

variable {window : Option Nat} {now : Nat} {n : Notices} {last : Option (String × Nat)}

/-- Whatever task is asleep is the one that was started last. -/
theorem Stands.mem_asleep (h : Stands window now n last) {t : Task} (ht : t ∈ n.asleep) :
    n.latest = some t.number := by
  cases h.stage with
  | quiet _ ha => rw [ha] at ht; cases ht
  | lasting _ ha => rw [ha] at ht; cases ht
  | ticking number _ ha hl =>
    rw [ha, List.mem_singleton] at ht
    rw [ht, hl]
  | passed _ ha => rw [ha] at ht; cases ht

/-- To stop the task that was started last leaves none asleep. -/
theorem Stands.asleep_stop (h : Stands window now n last) : (n.stop n.latest).asleep = [] := by
  refine List.filter_eq_nil_iff.mpr fun t ht => ?_
  simpa using (h.mem_asleep ht).symm

theorem stands_empty (window : Option Nat) : Stands window 0 empty none where
  stage := .quiet rfl rfl
  fresh := by rintro number ⟨⟩

/-- A success ends the one before it: its own task is the only one that is asleep then. -/
theorem Stands.succeed (h : Stands window now n last) (text : String) :
    Stands window now (n.succeed window now text) (some (text, now)) := by
  cases window with
  | none =>
    have ha : n.asleep = [] := by
      cases h.stage with
      | quiet _ ha => exact ha
      | lasting _ ha => exact ha
    exact ⟨.lasting rfl ha, h.fresh⟩
  | some w =>
    have hnew : some n.started ≠ n.latest := fun he => Nat.lt_irrefl _ (h.fresh _ he.symm)
    have ha : (n.succeed (some w) now text).asleep =
        [⟨n.started, n.generation + 1, now + w⟩] := by
      have hold : n.asleep.filter (fun t => some t.number ≠ n.latest) = [] := h.asleep_stop
      simp only [Notices.succeed, start, stop, List.filter_append, hold, List.nil_append]
      exact List.filter_eq_self.mpr (by simpa using hnew)
    refine ⟨.ticking n.started rfl ha rfl, ?_⟩
    rintro number ⟨⟩
    exact Nat.lt_succ_self n.started

theorem Stands.dismiss (h : Stands window now n last) : Stands window now n.dismiss none where
  stage := .quiet rfl h.asleep_stop
  fresh := by rintro number ⟨⟩

/-- An error is of no account for a success. -/
theorem Stands.fail (h : Stands window now n last) (p : Payload) :
    Stands window now (n.fail p) last where
  stage := by
    cases h.stage with
    | quiet hs ha => exact .quiet hs ha
    | lasting hs ha => exact .lasting hs ha
    | ticking number hs ha hl => exact .ticking number hs ha hl
    | passed hs ha hw => exact .passed hs ha hw
  fresh := h.fresh

/-! ### Time -/

theorem elapse_of_awake (now : Nat) (h : n.asleep = []) : n.elapse now = n := by
  cases n
  cases h
  rfl

theorem elapse_of_not_due {t : Task} (h : n.asleep = [t]) (hd : now < t.due) :
    n.elapse now = n := by
  have hn : ¬ t.due ≤ now := Nat.not_le.mpr hd
  cases n
  cases h
  simp [elapse, hd, hn]

/-- The task of the latest success takes it away when it is due. -/
theorem elapse_of_due {t : Task} (h : n.asleep = [t]) (hd : t.due ≤ now)
    (hg : t.generation = n.generation) :
    n.elapse now = { n with asleep := [], success := none, changes := n.changes + 1 } := by
  have hn : ¬ now < t.due := Nat.not_lt.mpr hd
  simp [elapse, h, hd, hn, fire, hg]

/-- Time takes a success away when its window has passed, and none before. -/
theorem Stands.elapse (h : Stands window now n last) {later : Nat} (hl : now ≤ later) :
    Stands window later (n.elapse later) last := by
  cases h.stage with
  | quiet hs ha =>
    rw [elapse_of_awake later ha]
    exact ⟨.quiet hs ha, h.fresh⟩
  | lasting hs ha =>
    rw [elapse_of_awake later ha]
    exact ⟨.lasting hs ha, h.fresh⟩
  | @ticking w since text number hs ha hn =>
    by_cases hd : since + w ≤ later
    · rw [elapse_of_due ha hd rfl]
      exact ⟨.passed rfl rfl hd, h.fresh⟩
    · rw [elapse_of_not_due ha (Nat.not_le.mp hd)]
      exact ⟨.ticking number hs ha hn, h.fresh⟩
  | passed hs ha hw =>
    rw [elapse_of_awake later ha]
    exact ⟨.passed hs ha (Nat.le_trans hw hl), h.fresh⟩

/-- What is shown at an instant at which the tasks have woken up that are due: the last
success, until its window has passed. -/
theorem Stands.success_elapse (h : Stands window now n last) (text : String) :
    (n.elapse now).success = some text ↔
      ∃ since, last = some (text, since) ∧ ∀ w, window = some w → now < since + w := by
  cases h.stage with
  | quiet hs ha =>
    rw [elapse_of_awake now ha, hs]
    simp
  | lasting hs ha =>
    rw [elapse_of_awake now ha, hs]
    simp
  | @ticking w since shown number hs ha hn =>
    by_cases hd : since + w ≤ now
    · rw [elapse_of_due ha hd rfl]
      simp [hd]
    · have hd : now < since + w := Nat.not_le.mp hd
      rw [elapse_of_not_due ha hd, hs]
      constructor
      · rintro ⟨⟩
        exact ⟨since, rfl, by rintro v ⟨⟩; exact hd⟩
      · rintro ⟨_, ⟨⟩, -⟩
        rfl
  | @passed w since shown hs ha hw =>
    rw [elapse_of_awake now ha, hs]
    simp [hw]

/-! ### Rows of signals -/

/-- What one signal does to how the notices stand. -/
theorem Stands.heard {past : List Signal} (h : Stands window (Signal.clock past) n
    (Signal.lastSuccess? past)) (x : Signal) :
    Stands window (Signal.clock (x :: past)) (n.heard window (Signal.clock past) x)
      (Signal.lastSuccess? (x :: past)) := by
  cases x with
  | succeed text => exact h.succeed text
  | fail p =>
    unfold Notices.heard
    dsimp only
    by_cases hu : p.isUnauthorized = true
    · rw [if_pos hu]
      exact h
    · rw [if_neg hu]
      exact h.fail p
  | dismiss => exact h.dismiss
  | wait ms => exact h.elapse (Nat.le_add_right _ ms)

theorem stands_after (window : Option Nat) : ∀ past : List Signal,
    Stands window (Signal.clock past) (after window past) (Signal.lastSuccess? past)
  | [] => stands_empty window
  | x :: past => (stands_after window past).heard x

/-- A dismissal takes the error away, and another failure takes its place. -/
theorem error_heard (window : Option Nat) (now : Nat) (n : Notices) (x : Signal) :
    (n.heard window now x).error = if x.isDismiss then none else x.line?.or n.error := by
  cases x with
  | succeed text => cases window <;> rfl
  | fail p =>
    simp only [heard, Signal.isDismiss, Signal.line?, Payload.line?]
    by_cases hu : p.isUnauthorized = true
    · rw [if_pos hu, if_pos hu]
      rfl
    · rw [if_neg hu, if_neg hu]
      rfl
  | dismiss => rfl
  | wait ms => exact error_elapse _ _

/-- The error that is shown is the last one since the last dismissal. -/
theorem error_after (window : Option Nat) : ∀ past : List Signal,
    (after window past).error = Signal.lastLine? past
  | [] => rfl
  | x :: past => by
    rw [after, error_heard, error_after window past]
    exact lastSince_cons.symm

/-- What is exactly shown after a row of signals: the last success that was not dismissed,
until its window has passed and not a moment longer, for ever when there is no window; and
the last error since the last dismissal. -/
structure Exact (window : Option Nat) (past : List Signal) (n : Notices) : Prop where
  success : ∀ text, n.success = some text ↔
    ∃ since, Signal.lastSuccess? past = some (text, since) ∧
      ∀ w, window = some w → Signal.clock past < since + w
  error : n.error = Signal.lastLine? past

theorem exact_after (window : Option Nat) (past : List Signal) :
    Exact window past ((after window past).elapse (Signal.clock past)) where
  success := (stands_after window past).success_elapse
  error := (error_elapse _ _).trans (error_after window past)

end Notices

/-! ### The notices of a session -/

/-- The time that passes when a reply does not come and the call is given up. -/
def Reply.pause? (timeout : Option Nat) : Reply → Option Signal
  | hang => timeout.map fun seconds => .wait (seconds * 1000)
  | _ => none

theorem Reply.pause?_eq_none {r : Reply} {timeout : Option Nat}
    (h : ∀ seconds, r = .hang → timeout = some seconds → False) : r.pause? timeout = none := by
  cases r with
  | answer a => rfl
  | drop => rfl
  | hang =>
    cases timeout with
    | none => rfl
    | some seconds => exact (h seconds rfl rfl).elim

namespace Session

/-- What sending a request is for the notices: time passes when it is given up. -/
def pause? (c : Setup) (r : Request) (s : Session) : Option Signal :=
  match r.call with
  | .ok k => (s.server.take k).1.pause? c.timeout
  | .error _ => none

/-- What a deed is for the notices. -/
def signal? (c : Setup) (s : Session) : Deed → Option Signal
  | .call a => s.pause? c (s.request c a)
  | .login credentials => s.pause? c (loginRequest c credentials)
  | .visit _ => none
  | .fail p => some (.fail p)
  | .collect _ => none
  | .succeed text => some (.succeed text)
  | .dismiss => some .dismiss
  | .wait ms => some (.wait ms)

/-- What a row of deeds is for the notices. -/
def news (c : Setup) (s : Session) : List Deed → List Signal
  | [] => []
  | x :: past => ((s.after c past).signal? c x).toList ++ s.news c past

/-- A session goes on to another one by a signal, or without any. -/
structure Hears (c : Setup) (s : Session) (x : Option Signal) (t : Session) : Prop where
  notices : t.notices = x.elim s.notices (s.notices.heard c.window s.clock)
  clock : t.clock = s.clock + x.elim 0 Signal.lasts

theorem Hears.none {c : Setup} {s t : Session} (hn : t.notices = s.notices)
    (hc : t.clock = s.clock) : Hears c s none t := ⟨hn, hc⟩

theorem hears_exchange (c : Setup) (k : Call) (s : Session) :
    Hears c s ((s.server.take k).1.pause? c.timeout) (s.exchange c k).2 := by
  unfold exchange
  dsimp only
  split
  · next a _ ha => rw [ha]; exact .none rfl rfl
  · next seconds ha ht => rw [ha, ht]; exact ⟨rfl, rfl⟩
  · next hno hsome => rw [Reply.pause?_eq_none hsome]; exact .none rfl rfl

theorem hears_send (c : Setup) (r : Request) (s : Session) :
    Hears c s (s.pause? c r) (s.send c r).2 := by
  unfold pause?
  cases hk : r.call with
  | error cause =>
    rw [send_of_error hk]
    exact .none rfl rfl
  | ok k =>
    rw [(send_of_call hk s).2]
    exact hears_exchange c k s

theorem hears_ask (c : Setup) (a : Ask) (s : Session) :
    Hears c s (s.pause? c (s.request c a)) (s.ask c a).2 := by
  have hs : Hears c s (s.pause? c (s.request c a)) (s.sent c a) := hears_send c (s.request c a) s
  have ho := ask_outcome c a s
  generalize s.ask c a = x at ho ⊢
  cases ho with
  | unanswered => exact hs
  | denied => exact ⟨hs.notices, hs.clock⟩
  | success => exact hs
  | failure => exact hs

theorem hears_login (c : Setup) (credentials : Credentials) (s : Session) :
    Hears c s (s.pause? c (loginRequest c credentials)) (s.login c credentials).2 := by
  have hs := hears_send c (loginRequest c credentials) s
  rw [login_snd]
  exact ⟨hs.notices, hs.clock⟩

theorem hears_navigate (c : Setup) (target : Route) (s : Session) :
    Hears c s none (s.navigate c target).2 := by
  unfold navigate
  split
  · exact .none rfl rfl
  · split
    · exact .none rfl rfl
    · exact .none rfl rfl

theorem hears_fail (c : Setup) (p : Payload) (s : Session) :
    Hears c s (some (.fail p)) (s.fail p) := by
  unfold fail
  by_cases hu : p.isUnauthorized = true
  · rw [if_pos hu]
    exact ⟨(if_pos hu).symm, rfl⟩
  · rw [if_neg hu]
    exact ⟨(if_neg hu).symm, rfl⟩

/-- A deed is heard as its signal. -/
theorem hears_does (c : Setup) (s : Session) (x : Deed) : Hears c s (s.signal? c x) (s.does c x) := by
  cases x with
  | call a => exact hears_ask c a s
  | login credentials => exact hears_login c credentials s
  | visit target => exact hears_navigate c target s
  | fail p => exact hears_fail c p s
  | collect f => exact .none rfl rfl
  | succeed text => exact ⟨rfl, rfl⟩
  | dismiss => exact ⟨rfl, rfl⟩
  | wait ms => exact ⟨rfl, rfl⟩

/-- What is shown after a row of deeds is what its signals leave. -/
theorem notices_after (c : Setup) (slot : Slot) (server : Server) : ∀ past : List Deed,
    ((start slot server).after c past).notices =
      Notices.after c.window ((start slot server).news c past) ∧
    ((start slot server).after c past).clock = Signal.clock ((start slot server).news c past)
  | [] => ⟨rfl, rfl⟩
  | x :: past => by
    obtain ⟨hn, hc⟩ := notices_after c slot server past
    have hx := hears_does c ((start slot server).after c past) x
    rw [after, news, hx.notices, hx.clock, hn, hc]
    cases ((start slot server).after c past).signal? c x with
    | none => exact ⟨rfl, rfl⟩
    | some y => exact ⟨rfl, rfl⟩

/-- **The window of a success is exact.** It is so after any row of signals, and in a session
after any row of deeds, calls that are given up included; the clock of the session is that of
its news. -/
theorem window_exact (c : Setup) :
    (∀ past : List Signal,
      Notices.Exact c.window past ((Notices.after c.window past).elapse (Signal.clock past))) ∧
    (∀ slot server (past : List Deed),
      Notices.Exact c.window ((start slot server).news c past)
        ((start slot server).after c past).settle.notices ∧
      ((start slot server).after c past).clock = Signal.clock ((start slot server).news c past)) := by
  refine ⟨Notices.exact_after c.window, fun slot server past => ?_⟩
  obtain ⟨hn, hc⟩ := notices_after c slot server past
  refine ⟨?_, hc⟩
  rw [settle, hn, hc]
  exact Notices.exact_after c.window _

end Session
end ProxyConsole
