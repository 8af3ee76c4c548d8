/-
# What the form for a new password sends

What stands in the form and what is sent by it follows from what is entered and submitted
alone, whatever the server replies: a password is sent when it is submitted and both fields
are alike, and then the form is empty. In a run of the form nothing else is done to the
session, so each password that was confirmed makes one request, in its order. The page goes
on to show the user and the records that it showed. What becomes of a password is told on
the page; of what the user is told otherwise nothing changes but what time takes away while
an answer is waited for in vain.

Key definitions: `Session.Lapses`, `UserScreen.Fields`, `UserScreen.Fields.confirmed`,
`UserScreen.Submits`, `UserScreen.Posts`, `UserScreen.SendsConfirmed`.
Key theorems: `Notices.elapse_elapse`, `Session.lapses_ask`, `UserScreen.submits`,
`UserScreen.session_formRun`, `UserScreen.sends_confirmed`.
-/
import Mathlib.Data.List.Forall2
import Mathlib.Data.List.Induction
import ProxyConsole.Proofs.Banner
import ProxyConsole.Proofs.PasswordForm
import ProxyConsole.Proofs.Requests

namespace ProxyConsole

/-! ### What time leaves of the notices -/

namespace Notices

/-- Until a later instant those tasks wake up that wake up until an earlier one, and then
those that are asleep at that one. -/
theorem countP_due {now later : Nat} (h : now ≤ later) (p : Task → Bool) (ts : List Task) :
    (ts.filter fun t => t.due ≤ later).countP p =
      (ts.filter fun t => t.due ≤ now).countP p +
        ((ts.filter fun t => now < t.due).filter fun t => t.due ≤ later).countP p := by
  induction ts with
  | nil => rfl
  | cons t ts ih =>
    by_cases h₁ : t.due ≤ now
    · have h₂ : t.due ≤ later := Nat.le_trans h₁ h
      have h₃ : ¬ now < t.due := Nat.not_lt.mpr h₁
      simp only [List.filter_cons, h₁, h₂, h₃, decide_true, decide_false, if_true, Bool.false_eq_true,
        if_false, List.countP_cons, ih]
      omega
    · have h₃ : now < t.due := Nat.not_le.mp h₁
      by_cases h₂ : t.due ≤ later
      · simp only [List.filter_cons, h₁, h₂, h₃, decide_true, decide_false, if_true,
          Bool.false_eq_true, if_false, List.countP_cons, ih]
        omega
      · simp only [List.filter_cons, h₁, h₂, h₃, decide_true, decide_false, if_true,
          Bool.false_eq_true, if_false, ih]

/-- What is left at a later instant does not depend on when it was looked at before. -/
theorem elapse_elapse {now later : Nat} (h : now ≤ later) (n : Notices) :
    (n.elapse now).elapse later = n.elapse later := by
  have hcount := countP_due h (·.generation == n.generation) n.asleep
  have hasleep : (n.asleep.filter fun t => now < t.due).filter (fun t => later < t.due) =
      n.asleep.filter fun t => later < t.due := by
    rw [List.filter_filter]
    refine List.filter_congr fun t _ => ?_
    rw [Bool.eq_iff_iff, Bool.and_eq_true, decide_eq_true_eq, decide_eq_true_eq]
    omega
  simp only [elapse, foldl_fire, hasleep]
  rw [hcount]
  congr 1
  · split
    · next h₂ =>
      simp only [h₂, Nat.add_zero]
    · next h₂ => rw [if_neg (by omega)]
  · omega

end Notices

namespace Session

/-- Of what the user is told nothing has changed but what time took away. -/
def Lapses (s t : Session) : Prop :=
  (t.clock = s.clock ∧ t.notices = s.notices) ∨
    (s.clock ≤ t.clock ∧ t.notices = s.notices.elapse t.clock)

theorem Lapses.refl (s : Session) : s.Lapses s := .inl ⟨rfl, rfl⟩

theorem Lapses.trans {s t u : Session} (h₁ : s.Lapses t) (h₂ : t.Lapses u) : s.Lapses u := by
  rcases h₁ with ⟨hc, hn⟩ | ⟨hc, hn⟩
  · unfold Lapses at h₂
    rwa [hc, hn] at h₂
  · refine .inr ?_
    rcases h₂ with ⟨hc', hn'⟩ | ⟨hc', hn'⟩
    · rw [hc', hn']
      exact ⟨hc, hn⟩
    · refine ⟨Nat.le_trans hc hc', ?_⟩
      rw [hn', hn, Notices.elapse_elapse hc']

/-- A call changes nothing of what the user is told. -/
theorem lapses_ask (c : Setup) (a : Ask) (s : Session) : s.Lapses (s.ask c a).2 := by
  have hh := hears_ask c a s
  cases hp : s.pause? c (s.request c a) with
  | none =>
    rw [hp] at hh
    exact .inl ⟨hh.clock, hh.notices⟩
  | some x =>
    obtain ⟨ms, rfl⟩ := eq_wait_of_pause? hp
    rw [hp] at hh
    have hc : (s.ask c a).2.clock = s.clock + ms := hh.clock
    refine .inr ⟨?_, ?_⟩
    · rw [hc]
      exact Nat.le_add_right _ ms
    · rw [hc]
      exact hh.notices

/-- A call that is not given up changes nothing at all of it. -/
theorem notices_ask {c : Setup} {a : Ask} {s : Session}
    (h : s.isGivenUp c (s.request c a) = false) : (s.ask c a).2.notices = s.notices := by
  have hs : (s.sent c a).notices = s.notices := by
    rw [sent, notices_send, h, if_neg Bool.false_ne_true]
  have ho := ask_outcome c a s
  generalize s.ask c a = x at ho ⊢
  cases ho with
  | unanswered => exact hs
  | denied => exact hs
  | success => exact hs
  | failure => exact hs

end Session

namespace UserScreen

variable {c : Setup}

/-! ### The fields of the form -/

/-- What stands in the two fields of the form. -/
structure Fields where
  password : String
  confirmation : String
  deriving DecidableEq, Repr

def fields (p : UserScreen) : Fields := ⟨p.password, p.confirmation⟩

namespace Fields

/-- The fields after something was done with the form: to submit them empties them when they
are alike. -/
def step (f : Fields) : FormAct → Fields
  | .enter password => { f with password }
  | .confirm confirmation => { f with confirmation }
  | .submit => if f.password = f.confirmation then ⟨"", ""⟩ else f

/-- The password that is confirmed by something that is done with the form. -/
def confirms (f : Fields) : FormAct → List String
  | .submit => if f.password = f.confirmation then [f.password] else []
  | .enter _ | .confirm _ => []

/-- The passwords that are confirmed in a run, in their order. -/
def confirmed (f : Fields) : List FormAct → List String
  | [] => []
  | a :: acts => f.confirms a ++ (f.step a).confirmed acts

end Fields

/-! ### One submission -/

/-- The call that sends the password of a page to its user. -/
def ask (p : UserScreen) : Ask :=
  Collection.passwordAsk p.user.id p.password

theorem submitPassword_of_eq {p : UserScreen} (h : p.password = p.confirmation) (s : Session) :
    p.submitPassword c s =
      ({ p with
        password := ""
        confirmation := ""
        error := if s.isAccepted c p.ask then none else some failed
        success := if s.isAccepted c p.ask then some updated else none },
      (s.ask c p.ask).2) := by
  have hask : (Collection.postPassword c p.user.id p.password s).2 = (s.ask c p.ask).2 := rfl
  have hok : (Collection.postPassword c p.user.id p.password s).1 = .ok () ↔
      s.isAccepted c p.ask = true := Session.tell_eq_ok_iff_isAccepted
  unfold submitPassword
  rw [if_neg (not_not_intro h), ← hask]
  generalize Collection.postPassword c p.user.id p.password s = x at hok ⊢
  obtain ⟨f | _, t⟩ := x
  · have hn : s.isAccepted c p.ask = false := by
      rw [← Bool.not_eq_true, ← hok]
      rintro ⟨⟩
    simp only [hn, Bool.false_eq_true, if_false]
  · have hy : s.isAccepted c p.ask = true := hok.mp rfl
    simp only [hy, if_true]

/-- What it is to submit the form of a page. Passwords that differ are not sent, and all stays
as it is but the error. One that was entered twice alike is sent to the user of the page, and
nothing else is done; the form is empty then, and the page tells whether the answer was a
success. What the user is told elsewhere stays as it is when an answer comes. -/
structure Submits (c : Setup) (p : UserScreen) (s : Session) : Prop where
  mismatched : p.password ≠ p.confirmation →
    p.submitPassword c s = ({ p with error := some mismatch }, s)
  sent : p.password = p.confirmation → p.submitPassword c s =
    ({ p with
      password := ""
      confirmation := ""
      error := if s.isAccepted c p.ask then none else some failed
      success := if s.isAccepted c p.ask then some updated else none },
    (s.ask c p.ask).2)
  notices : s.isGivenUp c (s.request c p.ask) = false →
    (p.submitPassword c s).2.notices = s.notices

theorem submits (c : Setup) (p : UserScreen) (s : Session) : Submits c p s where
  mismatched := submitPassword_mismatch
  sent h := submitPassword_of_eq h s
  notices hg := by
    by_cases hm : p.password = p.confirmation
    · rw [submitPassword_of_eq hm]
      exact Session.notices_ask hg
    · rw [submitPassword_mismatch hm]

/-! ### Runs of the form -/

/-- The calls that send passwords to a user, the latest in front. -/
def posts (id : String) (passwords : List String) : List Deed :=
  (passwords.map fun password => Deed.call (Collection.passwordAsk id password)).reverse

theorem posts_append (id : String) (earlier later : List String) :
    posts id (earlier ++ later) = posts id later ++ posts id earlier := by
  rw [posts, List.map_append, List.reverse_append]
  rfl

/-- Something that is done with the form leaves the user and the records of the page. -/
theorem page_formStep (x : UserScreen × Session) (a : FormAct) :
    (formStep c x a).1.user = x.1.user ∧ (formStep c x a).1.records = x.1.records := by
  cases a with
  | enter password => exact ⟨rfl, rfl⟩
  | confirm confirmation => exact ⟨rfl, rfl⟩
  | submit =>
    by_cases hm : x.1.password = x.1.confirmation
    · rw [formStep, submitPassword_of_eq hm]
      exact ⟨rfl, rfl⟩
    · rw [formStep, submitPassword_mismatch hm]
      exact ⟨rfl, rfl⟩

/-- What stands in the form does not depend on the server. -/
theorem fields_formStep (x : UserScreen × Session) (a : FormAct) :
    (formStep c x a).1.fields = x.1.fields.step a := by
  cases a with
  | enter password => rfl
  | confirm confirmation => rfl
  | submit =>
    rw [formStep, Fields.step]
    by_cases hm : x.1.fields.password = x.1.fields.confirmation
    · rw [submitPassword_of_eq hm, if_pos hm]
      rfl
    · rw [submitPassword_mismatch hm, if_neg hm]
      rfl

/-- What is done to the session is that a password which is confirmed is sent. -/
theorem session_formStep (x : UserScreen × Session) (a : FormAct) :
    (formStep c x a).2 = x.2.after c (posts x.1.user.id (x.1.fields.confirms a)) := by
  cases a with
  | enter password => rfl
  | confirm confirmation => rfl
  | submit =>
    rw [formStep, Fields.confirms]
    by_cases hm : x.1.fields.password = x.1.fields.confirmation
    · rw [submitPassword_of_eq hm, if_pos hm]
      rfl
    · rw [submitPassword_mismatch hm, if_neg hm]
      rfl

theorem page_formRun : ∀ (acts : List FormAct) (x : UserScreen × Session),
    (formRun c x acts).1.user = x.1.user ∧ (formRun c x acts).1.records = x.1.records
  | [], _ => ⟨rfl, rfl⟩
  | a :: acts, x => by
    obtain ⟨hu, hr⟩ := page_formRun acts (formStep c x a)
    obtain ⟨hu', hr'⟩ := page_formStep (c := c) x a
    exact ⟨hu.trans hu', hr.trans hr'⟩

theorem fields_formRun : ∀ (acts : List FormAct) (x : UserScreen × Session),
    (formRun c x acts).1.fields = acts.foldl Fields.step x.1.fields
  | [], _ => rfl
  | a :: acts, x => by
    rw [List.foldl_cons, ← fields_formStep (c := c) x a]
    exact fields_formRun acts (formStep c x a)

/-- **What a run of the form does to the session** is that the passwords are sent that are
confirmed, in their order. -/
theorem session_formRun : ∀ (acts : List FormAct) (x : UserScreen × Session),
    (formRun c x acts).2 = x.2.after c (posts x.1.user.id (x.1.fields.confirmed acts))
  | [], _ => rfl
  | a :: acts, x => by
    have ih := session_formRun acts (formStep c x a)
    rw [(page_formStep x a).1, fields_formStep, session_formStep] at ih
    rw [Fields.confirmed, posts_append, Session.after_append]
    exact ih

/-- A request that sends a password to a user. -/
structure Posts (c : Setup) (id password : String) (r : Request) : Prop where
  method : r.method = "POST"
  address : r.address = c.address ("/api/users/" ++ id)
  body : r.body = some (.object [("password", .string password)])

/-- Each password that is sent makes one request. -/
theorem requests_posts (id : String) (s : Session) : ∀ passwords : List String,
    List.Forall₂ (Posts c id) passwords (s.requests c (posts id passwords)) := by
  intro passwords
  induction passwords using List.reverseRecOn with
  | nil => exact .nil
  | append_singleton earlier password ih =>
    rw [posts_append, Session.requests_append]
    exact List.rel_append ih (.cons ⟨rfl, rfl, rfl⟩ .nil)

theorem lapses_posts (id : String) (s : Session) : ∀ passwords : List String,
    s.Lapses (s.after c (posts id passwords)) := by
  intro passwords
  induction passwords using List.reverseRecOn with
  | nil => exact .refl s
  | append_singleton earlier password ih =>
    rw [posts_append, Session.after_append]
    exact ih.trans (Session.lapses_ask c _ _)

/-- No submission of a run waits for its answer until it is given up. -/
def IsHeard (c : Setup) (x : UserScreen × Session) (acts : List FormAct) : Prop :=
  ∀ earlier later, acts = earlier ++ FormAct.submit :: later →
    (formRun c x earlier).2.isGivenUp c
      ((formRun c x earlier).2.request c (formRun c x earlier).1.ask) = false

theorem notices_formRun : ∀ (acts : List FormAct) (x : UserScreen × Session),
    IsHeard c x acts → (formRun c x acts).2.notices = x.2.notices
  | [], _, _ => rfl
  | a :: acts, x, h => by
    have hrest : IsHeard c (formStep c x a) acts := by
      rintro earlier later rfl
      exact h (a :: earlier) later rfl
    have hstep : (formStep c x a).2.notices = x.2.notices := by
      cases a with
      | enter password => rfl
      | confirm confirmation => rfl
      | submit => exact (submits c x.1 x.2).notices (h [] acts rfl)
    exact (notices_formRun acts (formStep c x a) hrest).trans hstep

/-- A run of the form of a page. The page goes on to show its user and its records, and what
stands in the form follows from the acts alone. To the session nothing is done but that the
passwords are sent which were confirmed, each by one request, and nothing else arrives at the
server. The user is told nothing elsewhere: what they are told stays as it is while there are
replies, and where one is waited for in vain nothing but time acts on it. -/
structure SendsConfirmed (c : Setup) (p : UserScreen) (s : Session) (acts : List FormAct) :
    Prop where
  user : (formRun c (p, s) acts).1.user = p.user
  records : (formRun c (p, s) acts).1.records = p.records
  fields : (formRun c (p, s) acts).1.fields = acts.foldl Fields.step p.fields
  session : (formRun c (p, s) acts).2 = s.after c (posts p.user.id (p.fields.confirmed acts))
  requests : List.Forall₂ (Posts c p.user.id) (p.fields.confirmed acts)
    (s.requests c (posts p.user.id (p.fields.confirmed acts)))
  arrivals : (formRun c (p, s) acts).2.server.arrivals = s.server.arrivals ++
    (s.requests c (posts p.user.id (p.fields.confirmed acts))).flatMap s.server.arrives
  notices : IsHeard c (p, s) acts → (formRun c (p, s) acts).2.notices = s.notices
  lapses : s.Lapses (formRun c (p, s) acts).2

/-- **The form sends what was confirmed and nothing else**, whatever is entered and submitted
and whatever the server replies; and every submission of a run tells on the page alone what
became of it. -/
theorem sends_confirmed (c : Setup) (p : UserScreen) (s : Session) (acts : List FormAct) :
    SendsConfirmed c p s acts ∧
      Submits c (formRun c (p, s) acts).1 (formRun c (p, s) acts).2 := by
  have hpage := page_formRun (c := c) acts (p, s)
  have hsession := session_formRun (c := c) acts (p, s)
  refine ⟨⟨hpage.1, hpage.2, fields_formRun acts (p, s), hsession, requests_posts _ s _, ?_,
    notices_formRun acts (p, s), ?_⟩, submits c _ _⟩
  · rw [hsession]
    exact Session.arrivals_requests c s _
  · rw [hsession]
    exact lapses_posts _ s _

end UserScreen
end ProxyConsole
