/-
# What is done to a session, one thing at a time

Whatever a console, its pages and its collections do to a session is a row of
deeds: a call is made, a login is tried, a place is visited, the user is told
something, or time passes. So what every deed keeps, every operation keeps, and
what can be said of every row of deeds can be said of every run of a console.

A row of deeds is written with the latest deed in front, so that what is behind
a deed is what was done before it.

Key definitions: `Deed`, `Session.does`, `Session.after`, `Collection.Use`,
`Collection.use`, `Collection.Use.deeds`, `Session.andThen`.
Key theorems: `Session.after_induct`, `Session.after_append`,
`Collection.use_eq_after`, `Session.andThen_eq_after`.
-/
import ProxyConsole.Console

namespace ProxyConsole

/-- Something that is done to a session. -/
inductive Deed where
  /-- A call is made under the session, and its answer looked at. -/
  | call (a : Ask)
  | login (credentials : Credentials)
  | visit (target : Route)
  /-- The user is told of a failed call; one that was denied ends the session. -/
  | fail (p : Payload)
  | collect (f : Failure)
  | succeed (text : String)
  | dismiss
  | wait (ms : Nat)

/-- What is done with a result that is no failure. -/
def Deed.onSuccess (r : Except Failure α) (go : α → List Deed) : List Deed :=
  match r with
  | .ok a => go a
  | .error _ => []

namespace Session

/-- The session after a deed. -/
def does (c : Setup) (s : Session) : Deed → Session
  | .call a => (s.ask c a).2
  | .login credentials => (s.login c credentials).2
  | .visit target => (s.navigate c target).2
  | .fail p => s.fail p
  | .collect f => { s with collected := s.collected ++ [f] }
  | .succeed text => s.succeed c text
  | .dismiss => s.dismiss
  | .wait ms => s.wait ms

/-- The session after a row of deeds, the latest of them in front. -/
def after (c : Setup) (s : Session) : List Deed → Session
  | [] => s
  | x :: past => (s.after c past).does c x

theorem after_append (c : Setup) (s : Session) (past : List Deed) :
    ∀ later : List Deed, s.after c (later ++ past) = (s.after c past).after c later
  | [] => rfl
  | x :: later => congrArg (does c · x) (after_append c s past later)

/-- What every deed keeps, every row of deeds keeps. -/
theorem after_induct {c : Setup} {P : Session → Prop} (step : ∀ s x, P s → P (s.does c x))
    {s : Session} (h : P s) : ∀ past : List Deed, P (s.after c past)
  | [] => h
  | x :: past => step _ x (after_induct step h past)

end Session

/-- What is done to hand over a failure. -/
def Handler.deeds (h : Handler) (f : Failure) : List Deed :=
  match h with
  | banner => if f.isPermission then [] else [.fail f.payload]
  | collector => [.collect f]

theorem Handler.handle_eq_after (c : Setup) (h : Handler) (f : Failure) (s : Session) :
    h.handle f s = s.after c (h.deeds f) := by
  cases h with
  | banner =>
    unfold handle deeds
    by_cases hf : f.isPermission = true
    · simp only [if_pos hf, Session.after]
    · simp only [if_neg hf, Session.after, Session.does]
  | collector => rfl

/-- The failure of a result, if it is one. -/
def Failure.of? : Except Failure α → Option Failure
  | .ok _ => none
  | .error f => some f

namespace Collection

/-- A use of a collection. -/
inductive Use (E : Type) [Entity E] where
  | get (id : String)
  | query (filter : List (String × String))
  | create (draft : Entity.Draft E)
  | update (d : Edit E)
  | updateWith (change : E → E) (e : E)
  | remove (e : E)
  | removeFrom (kept : List E) (id : String)

variable {E : Type} [Entity E]

/-- The session after a use of a collection. -/
def use (c : Setup) (h : Handler) (s : Session) : Use E → Session
  | .get id => (get E c h id s).2
  | .query filter => (query E c h filter s).2
  | .create draft => (create E c h draft s).2
  | .update d => (update c h d s).2.2
  | .updateWith change e => (updateWith c h change e s).2.2
  | .remove e => (remove c h e s).2
  | .removeFrom kept id => (removeFrom c h kept id s).2.2

namespace Use

/-- The call that a use makes. -/
def ask : Use E → Ask
  | .get id => .get (Entity.itemPath E id) []
  | .query filter => .get (Entity.collection E) filter
  | .create draft => .send "POST" (Entity.collection E) (Entity.draftJson draft)
  | .update d => updateAsk d
  | .updateWith change e => updateAsk ((Edit.begin e).apply change)
  | .remove e => .delete (Entity.itemPath E (Entity.id e))
  | .removeFrom _ id => .delete (Entity.itemPath E id)

/-- The failure of a use, if it fails. -/
def failure? (c : Setup) (h : Handler) (s : Session) : Use E → Option Failure
  | .get id => Failure.of? (Collection.get E c h id s).1
  | .query filter => Failure.of? (Collection.query E c h filter s).1
  | .create draft => Failure.of? (Collection.create E c h draft s).1
  | .update d => Failure.of? (Collection.update c h d s).1
  | .updateWith change e => Failure.of? (Collection.updateWith c h change e s).1
  | .remove e => Failure.of? (Collection.remove c h e s).1
  | .removeFrom kept id => Failure.of? (Collection.removeFrom c h kept id s).1

/-- What a use does: its call, and then its failure is handed over. -/
def deeds (c : Setup) (h : Handler) (s : Session) (u : Use E) : List Deed :=
  (u.failure? c h s).elim [] h.deeds ++ [.call u.ask]

end Use

/-- The call that sends a new password for a user. -/
def passwordAsk (id password : String) : Ask :=
  .send "POST" (Entity.itemPath User id) (.object [("password", .string password)])

/-- What is done to send a new password and hand over the failure. -/
def passwordDeeds (c : Setup) (h : Handler) (id password : String) (s : Session) : List Deed :=
  (Failure.of? (changePassword c h id password s).1).elim [] h.deeds ++
    [.call (passwordAsk id password)]

theorem report_fst (h : Handler) (r : Except Failure α × Session) : (report h r).1 = r.1 := by
  unfold report
  split
  · rfl
  · next f hf => exact hf.symm

/-- A result of a call that was handed over is the call and what hands it over. -/
theorem report_eq_after (c : Setup) (h : Handler) (s : Session) (a : Ask)
    {r : Except Failure α × Session} (hr : r.2 = (s.ask c a).2) :
    (report h r).2 = s.after c ((Failure.of? (report h r).1).elim [] h.deeds ++ [.call a]) := by
  have hc : s.after c [.call a] = r.2 := hr.symm
  rw [Session.after_append, hc, report_fst]
  obtain ⟨f | a, t⟩ := r
  · exact h.handle_eq_after c f t
  · rfl

theorem update_eq_after (c : Setup) (h : Handler) (d : Edit E) (s : Session) :
    (update c h d s).2.2 =
      s.after c ((Failure.of? (update c h d s).1).elim [] h.deeds ++ [.call (updateAsk d)]) := by
  have hf : s.after c [.call (updateAsk d)] = (s.fetch c (Entity.read (E := E)) (updateAsk d)).2 :=
    rfl
  unfold update
  rw [Session.after_append, hf]
  generalize s.fetch c (Entity.read (E := E)) (updateAsk d) = r
  obtain ⟨f | e, t⟩ := r
  · exact h.handle_eq_after c f t
  · rfl

theorem removeFrom_eq_after (c : Setup) (h : Handler) (kept : List E) (id : String) (s : Session) :
    (removeFrom c h kept id s).2.2 =
      s.after c ((Failure.of? (removeFrom c h kept id s).1).elim [] h.deeds ++
        [.call (.delete (Entity.itemPath E id))]) := by
  have hr := report_eq_after c h s (.delete (Entity.itemPath E id))
    (r := s.tell c (.delete (Entity.itemPath E id))) rfl
  unfold removeFrom
  generalize report h (s.tell c (.delete (Entity.itemPath E id))) = r at hr ⊢
  obtain ⟨f | _, t⟩ := r
  · exact hr
  · exact hr

/-- What a use does to a session is the row of its deeds. -/
theorem use_eq_after (c : Setup) (h : Handler) (s : Session) (u : Use E) :
    use c h s u = s.after c (u.deeds c h s) := by
  cases u with
  | get id => exact report_eq_after c h s (Use.get id : Use E).ask rfl
  | query filter => exact report_eq_after c h s (Use.query filter : Use E).ask rfl
  | create draft => exact report_eq_after c h s (Use.create draft : Use E).ask rfl
  | update d => exact update_eq_after c h d s
  | updateWith change e => exact update_eq_after c h ((Edit.begin e).apply change) s
  | remove e => exact report_eq_after c h s (Use.remove e).ask rfl
  | removeFrom kept id => exact removeFrom_eq_after c h kept id s

theorem changePassword_eq_after (c : Setup) (h : Handler) (id password : String) (s : Session) :
    (changePassword c h id password s).2 = s.after c (passwordDeeds c h id password s) :=
  report_eq_after c h s (passwordAsk id password) rfl

end Collection

/-! ### Operations of several calls -/

namespace Session

/-- Goes on with a success; a failure is passed on. -/
def andThen (r : Except Failure α × Session) (go : α → Session → Except Failure β × Session) :
    Except Failure β × Session :=
  match r with
  | (.error f, s) => (.error f, s)
  | (.ok a, s) => go a s

/-- What is done to go on with a success comes behind what was done for it. -/
theorem andThen_eq_after {c : Setup} (later : α → Session → List Deed)
    {r : Except Failure α × Session} {s : Session} {past : List Deed} (hr : r.2 = s.after c past)
    {go : α → Session → Except Failure β × Session}
    (hgo : ∀ a t, (go a t).2 = t.after c (later a t)) :
    (andThen r go).2 = s.after c (Deed.onSuccess r.1 (fun a => later a r.2) ++ past) := by
  rw [after_append, ← hr]
  obtain ⟨f | a, t⟩ := r
  · rfl
  · exact hgo a t

/-- To make something of a success changes nothing more. -/
theorem andThen_snd (r : Except Failure α × Session) (g : α → β) :
    (andThen r fun a t => (.ok (g a), t)).2 = r.2 := by
  obtain ⟨f | a, t⟩ := r
  · rfl
  · rfl

end Session

open Session (andThen)

theorem RecordScreen.load_eq_andThen (c : Setup) (id : String) (s : Session) :
    load c id s = andThen (Collection.get Record c .banner id s) fun record t =>
      andThen (Collection.query User c .banner [] t) fun users u => (.ok ⟨record, users⟩, u) := by
  unfold load andThen
  generalize Collection.get Record c .banner id s = r
  obtain ⟨f | record, t⟩ := r
  · rfl
  · dsimp only
    generalize Collection.query User c .banner [] t = q
    obtain ⟨f | users, u⟩ := q
    · rfl
    · rfl

theorem RecordScreen.delete_eq_andThen (c : Setup) (p : RecordScreen) (s : Session) :
    p.delete c s = andThen (Collection.remove c .banner p.record s) fun _ t =>
      (.ok (t.navigate c .records).1, (t.navigate c .records).2) := by
  unfold delete andThen
  generalize Collection.remove c .banner p.record s = r
  obtain ⟨f | _, t⟩ := r
  · rfl
  · rfl

theorem UserScreen.load_eq_andThen (c : Setup) (id : String) (s : Session) :
    load c id s = andThen (Collection.get User c .banner id s) fun user t =>
      andThen (Collection.query Record c .banner [] t) fun records u =>
        (.ok ⟨user, user.recordsAmong records, "", "", none, none⟩, u) := by
  unfold load andThen
  generalize Collection.get User c .banner id s = r
  obtain ⟨f | user, t⟩ := r
  · rfl
  · dsimp only
    generalize Collection.query Record c .banner [] t = q
    obtain ⟨f | records, u⟩ := q
    · rfl
    · rfl

theorem UserScreen.delete_eq_andThen (c : Setup) (p : UserScreen) (s : Session) :
    p.delete c s = andThen (Collection.remove c .banner p.user s) fun _ t =>
      (.ok (t.navigate c .users).1, (t.navigate c .users).2) := by
  unfold delete andThen
  generalize Collection.remove c .banner p.user s = r
  obtain ⟨f | _, t⟩ := r
  · rfl
  · rfl

theorem Console.onward_eq_andThen (c : Setup) (place : E → Route)
    (r : Except Failure E × Session) :
    onward c place r = andThen r fun e t =>
      (.ok (t.navigate c (place e)).1, (t.navigate c (place e)).2) := by
  obtain ⟨f | e, t⟩ := r
  · rfl
  · rfl

/-- What is done on a page is done once it was entered. -/
theorem Console.within_eq_andThen (c : Setup) (target : Route)
    (go : Session → Except Failure α × Session) (k : Console) :
    ((k.within c target go).1, (k.within c target go).2.session) =
      andThen (enter c target k.session) fun _ t => go t := by
  unfold within
  generalize enter c target k.session = r
  obtain ⟨f | _, t⟩ := r
  · rfl
  · rfl

end ProxyConsole
