/-
# What an operation accounts for

An operation of the console that makes calls of collections succeeds only if every
call was answered with a success that holds what it was made for. When a call fails
the operation fails with the failure of that call and makes no further call. For
want of a permission the user is at the login page then, whether the page could not
be entered or a call was denied; of every other failure the user has been told
before the operation returns it.

Key definitions: `Tiding.holds`, `Session.answers`, `Session.Accounts`.
Key theorems: `Session.accounts_use`, `Session.Accounts.after_none`,
`Session.Accounts.andThen`, `Console.accounts_within`.
-/
import ProxyConsole.Proofs.Banner
import ProxyConsole.Proofs.Check
import ProxyConsole.Proofs.Refusal

namespace ProxyConsole

open Collection (Use)

/-! ### What comes back, once more -/

namespace Tiding

/-- Whether a call came back with a success that holds what was asked for. -/
def holds : Tiding → Bool
  | reply (some r) holds => r.isSuccess && holds r
  | _ => false

/-- What is no failure holds what was asked for. -/
theorem payload?_eq_none_iff {x : Tiding} : x.payload? = none ↔ x.holds = true := by
  cases x with
  | told p => simp [payload?, holds]
  | reply r? h =>
    cases r? with
    | none => simp [payload?, holds]
    | some r =>
      by_cases hd : r.status = unauthorized
      · have hr : r.isSuccess ≠ true := fun hr => Session.status_ne_of_isSuccess hr hd
        simp [payload?, holds, hd, hr]
      · cases hr : r.isSuccess with
        | false => simp [payload?, holds, hd, hr]
        | true => cases hh : h r <;> simp [payload?, holds, hd, hr, hh]

/-- Only a denial is told as one. -/
theorem status_of_payload? {r? : Option Answer} {h : Answer → Bool} {p : Payload}
    (hp : payload? (.reply r? h) = some p) (hu : p.isUnauthorized = true) :
    ∃ r, r? = some r ∧ r.status = unauthorized := by
  cases r? with
  | none =>
    cases hp
    cases hu
  | some r =>
    by_cases hd : r.status = unauthorized
    · exact ⟨r, rfl, hd⟩
    · exfalso
      rw [payload?, if_neg hd] at hp
      have hs : p.status = some r.status ∨ p.status = none := by
        split at hp
        · split at hp
          · cases hp
          · cases hp
            split
            · exact .inl rfl
            · exact .inr rfl
        · cases hp
          exact .inl rfl
      rcases hs with hs | hs
      · simp [Payload.isUnauthorized, hs, hd] at hu
      · simp [Payload.isUnauthorized, hs] at hu

theorem onSuccess_nil (r : Except Failure α) : onSuccess r (fun _ => []) = [] := by
  cases r <;> rfl

end Tiding

theorem Failure.eq_permission {f : Failure} (h : f.isPermission = true) :
    f = .permission := by
  cases f with
  | permission => rfl
  | _ => cases h

namespace Session

/-! ### The answers of a row of deeds -/

/-- The answers that come to the calls of a row of deeds, the latest in front. -/
def answers (c : Setup) (s : Session) : List Deed → List (Option Answer)
  | [] => []
  | .call a :: past => (s.after c past).answer? c a :: s.answers c past
  | _ :: past => s.answers c past

theorem answers_append (c : Setup) (s : Session) (past : List Deed) : ∀ later : List Deed,
    s.answers c (later ++ past) = (s.after c past).answers c later ++ s.answers c past
  | [] => rfl
  | x :: later => by
    have ih := answers_append c s past later
    cases x with
    | call a => simp only [List.cons_append, answers, ih, after_append]
    | _ => simpa only [List.cons_append, answers] using ih

/-- An answer came, and it is a success. -/
def IsSuccess (r? : Option Answer) : Prop :=
  ∃ r, r? = some r ∧ r.isSuccess = true

theorem isSuccess_of_holds {r? : Option Answer} {h : Answer → Bool}
    (hx : Tiding.holds (.reply r? h) = true) : IsSuccess r? := by
  cases r? with
  | none => cases hx
  | some r =>
    rw [Tiding.holds, Bool.and_eq_true] at hx
    exact ⟨r, rfl, hx.1⟩

theorem isSuccess_of_tell {c : Setup} {a : Ask} {s : Session} {u : Unit}
    (h : (s.tell c a).1 = .ok u) : IsSuccess (s.answer? c a) :=
  tell_eq_ok.mp h

/-! ### Operations -/

/-- A session accounts for how it became another, with a failure at the end or with none: for
the deeds that were done and for what came back to its calls. There is no failure only if
every call was answered with a success, and what came back to a call holds what was asked
for or is that failure. For want of a permission the user is at the login page, and of every
other failure the user is told. -/
structure Accounts (c : Setup) (s : Session) (f? : Option Failure) (t : Session)
    (row : List Deed) (news : List Tiding) : Prop where
  does : t = s.after c row
  answered : f? = none → ∀ x ∈ s.answers c row, IsSuccess x
  back : ∀ x ∈ news, x.holds = true ∨ ∃ f, f? = some f ∧ ComesBack x (some f)
  expelled : ∀ f, f? = some f → f.isPermission = true → t.route = .login
  told : ∀ f, f? = some f → f.isPermission = false → t.notices.error = some f.payload.shown

/-- A failure of which the user is told is not told as a denial. -/
theorem isUnauthorized_of_comesBack {x : Tiding} {f : Failure} (h : ComesBack x (some f))
    (hp : f.isPermission = false) : f.payload.isUnauthorized = false := by
  have hx : x.payload? = some f.payload := h.payload.symm
  have hl : x.line? = some f.payload.shown := by
    rw [h.line, Option.bind_some, hp]
    rfl
  rw [Tiding.line?, hx, Option.bind_some, Payload.line?] at hl
  cases hu : f.payload.isUnauthorized with
  | false => rfl
  | true =>
    rw [hu] at hl
    cases hl

variable {c : Setup} {s t : Session}

/-- A call whose failure the user is told of accounts for its answer. -/
theorem accounts_call {a : Ask} {holds : Answer → Bool} {f? : Option Failure}
    (hdoes : t = s.after c (f?.elim [] Handler.banner.deeds ++ [.call a]))
    (hback : ComesBack (.reply (s.answer? c a) holds) f?) :
    Accounts c s f? t (f?.elim [] Handler.banner.deeds ++ [.call a])
      [.reply (s.answer? c a) holds] := by
  cases f? with
  | none =>
    have hx : Tiding.holds (.reply (s.answer? c a) holds) = true :=
      Tiding.payload?_eq_none_iff.mp hback.payload.symm
    refine ⟨hdoes, fun _ => ?_, ?_, ?_, ?_⟩
    · exact List.forall_mem_singleton.mpr (isSuccess_of_holds hx)
    · exact List.forall_mem_singleton.mpr (.inl hx)
    · rintro f ⟨⟩
    · rintro f ⟨⟩
  | some f =>
    have hx : Tiding.payload? (.reply (s.answer? c a) holds) = some f.payload :=
      hback.payload.symm
    have ht : t = Handler.banner.handle f (s.ask c a).2 := by
      rw [hdoes, Handler.handle_eq_after c]
      exact after_append c s [.call a] (Handler.banner.deeds f)
    refine ⟨hdoes, ?_, ?_, ?_, ?_⟩
    · rintro ⟨⟩
    · exact List.forall_mem_singleton.mpr (.inr ⟨f, rfl, hback⟩)
    · rintro e ⟨⟩ hp
      obtain rfl := Failure.eq_permission hp
      obtain ⟨r, hr, hu⟩ := Tiding.status_of_payload? hx rfl
      have hd : s.isDenied c a = true := by simp [isDenied, hr, hu]
      rw [ht]
      exact route_ask_of_isDenied hd
    · rintro e ⟨⟩ hp
      have hu : f.payload.isUnauthorized = false := isUnauthorized_of_comesBack hback hp
      rw [ht]
      simp [Handler.handle, fail, Notices.fail, hp, hu]

/-- Every use of a collection accounts for its answer. -/
theorem accounts_use {E : Type} [Entity E] (c : Setup) (s : Session) (u : Use E) :
    Accounts c s (u.failure? c .banner s) (Collection.use c .banner s u) (u.deeds c .banner s)
      [u.tiding c s] :=
  accounts_call (Collection.use_eq_after c .banner s u) (Collection.comesBack_use c .banner s u)

namespace Accounts

variable {row : List Deed} {news : List Tiding}

/-- What makes no calls and does not fail accounts for its deeds alone. -/
theorem of_none (hdoes : t = s.after c row) (hrow : s.answers c row = []) :
    Accounts c s none t row [] where
  does := hdoes
  answered _ := by
    rw [hrow]
    rintro x ⟨⟩
  back := by rintro x ⟨⟩
  expelled := by rintro f ⟨⟩
  told := by rintro f ⟨⟩

/-- Without a failure all that came back holds what was asked for. -/
theorem holds (h : Accounts c s none t row news) {x : Tiding} (hx : x ∈ news) :
    x.holds = true := by
  rcases h.back x hx with hh | ⟨f, hf, -⟩
  · exact hh
  · cases hf

/-- What follows a success comes in front of it in both rows. -/
theorem after_none (h : Accounts c s none t row news) {u : Session} {f? : Option Failure}
    {later : List Deed} {more : List Tiding} (hq : Accounts c t f? u later more) :
    Accounts c s f? u (later ++ row) (more ++ news) := by
  have ht : t = s.after c row := h.does
  refine ⟨?_, ?_, ?_, hq.expelled, hq.told⟩
  · rw [after_append, ← ht]
    exact hq.does
  · intro hn x hx
    rw [answers_append, ← ht, List.mem_append] at hx
    rcases hx with hx | hx
    · exact hq.answered hn x hx
    · exact h.answered rfl x hx
  · intro x hx
    rcases List.mem_append.mp hx with hx | hx
    · exact hq.back x hx
    · exact .inl (h.holds hx)

variable {r : Except Failure α × Session}

theorem andThen (h : Accounts c s (Failure.of? r.1) r.2 row news) {later : α → List Deed}
    {more : α → List Tiding} {go : α → Session → Except Failure β × Session}
    (hgo : ∀ a, r.1 = .ok a →
      Accounts c r.2 (Failure.of? (go a r.2).1) (go a r.2).2 (later a) (more a)) :
    Accounts c s (Failure.of? (Session.andThen r go).1) (Session.andThen r go).2
      (Deed.onSuccess r.1 later ++ row) (Tiding.onSuccess r.1 more ++ news) := by
  obtain ⟨f | a, t⟩ := r
  · exact h
  · exact h.after_none (hgo a rfl)

/-- To go to a place after a success accounts for nothing more. -/
theorem visit (h : Accounts c s (Failure.of? r.1) r.2 row news) (place : α → Route) :
    Accounts c s
      (Failure.of? (Session.andThen r fun a t =>
        (.ok (t.navigate c (place a)).1, (t.navigate c (place a)).2)).1)
      (Session.andThen r fun a t =>
        (.ok (t.navigate c (place a)).1, (t.navigate c (place a)).2)).2
      (Deed.onSuccess r.1 (fun a => [.visit (place a)]) ++ row) news := by
  obtain ⟨f | a, t⟩ := r
  · exact h
  · have hv : Accounts c t none (t.navigate c (place a)).2 [.visit (place a)] [] :=
      .of_none rfl rfl
    exact h.after_none hv

/-- What is made of a success accounts for nothing more. -/
theorem made (h : Accounts c s (Failure.of? r.1) r.2 row news) (g : α → β) :
    Accounts c s (Failure.of? (Session.andThen r fun a t => (.ok (g a), t)).1)
      (Session.andThen r fun a t => (.ok (g a), t)).2 row news := by
  obtain ⟨f | a, t⟩ := r
  · exact h
  · exact h

end Accounts

end Session

open Session (Accounts)

/-! ### Pages -/

section

variable (c : Setup)

theorem RecordScreen.accounts_load (id : String) (s : Session) :
    Accounts c s (Failure.of? (load c id s).1) (load c id s).2 (loadDeeds c id s)
      (loadTidings c id s) := by
  have hget : Accounts c s (Failure.of? (Collection.get Record c .banner id s).1)
      (Collection.get Record c .banner id s).2 _ _ := Session.accounts_use c s (.get id)
  rw [load_eq_andThen]
  refine hget.andThen fun record _ => ?_
  generalize (Collection.get Record c .banner id s).2 = t
  have hquery : Accounts c t (Failure.of? (Collection.query User c .banner [] t).1)
      (Collection.query User c .banner [] t).2 _ _ := Session.accounts_use c t (.query [])
  exact hquery.made (RecordScreen.mk record)

theorem RecordScreen.accounts_change (p : RecordScreen) (edit : Record → Record) (g : Record → α)
    (s : Session) :
    Accounts c s (Failure.of? ((p.change c edit s).1.map g)) (p.change c edit s).2.2
      ((Use.updateWith edit p.record).deeds c .banner s)
      [(Use.updateWith edit p.record).tiding c s] := by
  rw [Failure.of?_map]
  exact Session.accounts_use c s (.updateWith edit p.record)

theorem RecordScreen.accounts_delete (p : RecordScreen) (s : Session) :
    Accounts c s (Failure.of? (p.delete c s).1) (p.delete c s).2 (p.deeds c s .delete)
      [(p.use .delete).tiding c s] := by
  have hremove : Accounts c s (Failure.of? (Collection.remove c .banner p.record s).1)
      (Collection.remove c .banner p.record s).2 _ _ := Session.accounts_use c s (.remove p.record)
  rw [delete_eq_andThen]
  exact hremove.visit fun _ => .records

theorem UserScreen.accounts_load (id : String) (s : Session) :
    Accounts c s (Failure.of? (load c id s).1) (load c id s).2 (loadDeeds c id s)
      (loadTidings c id s) := by
  have hget : Accounts c s (Failure.of? (Collection.get User c .banner id s).1)
      (Collection.get User c .banner id s).2 _ _ := Session.accounts_use c s (.get id)
  rw [load_eq_andThen]
  refine hget.andThen fun user _ => ?_
  generalize (Collection.get User c .banner id s).2 = t
  have hquery : Accounts c t (Failure.of? (Collection.query Record c .banner [] t).1)
      (Collection.query Record c .banner [] t).2 _ _ := Session.accounts_use c t (.query [])
  exact hquery.made fun records => UserScreen.mk user (user.recordsAmong records) "" "" none none

theorem UserScreen.accounts_delete (p : UserScreen) (s : Session) :
    Accounts c s (Failure.of? (p.delete c s).1) (p.delete c s).2 (p.deeds c s .delete)
      (p.tidings c s .delete) := by
  have hremove : Accounts c s (Failure.of? (Collection.remove c .banner p.user s).1)
      (Collection.remove c .banner p.user s).2 _ _ := Session.accounts_use c s (.remove p.user)
  rw [delete_eq_andThen]
  exact hremove.visit fun _ => .users

end

/-! ### The console -/

namespace Console

variable {c : Setup}

/-- Nobody is kept from a page but to log in. -/
theorem accounts_enter {target : Route} (ht : target.needsSession = true) (s : Session) :
    Accounts c s (Failure.of? (enter c target s).1) (enter c target s).2 [.visit target] [] := by
  cases hl : s.isLive c with
  | true =>
    have hdoes : (enter c target s).2 = s.after c [.visit target] := rfl
    rw [hdoes, enter_eq_ok hl (Route.ne_logout ht)]
    exact .of_none rfl rfl
  | false =>
    have hne : Route.login ≠ target := (Route.ne_login ht).symm
    have hv := Session.navigate_of_lacks (Session.isLive_eq_false_iff.mp hl) ht
    have he : (enter c target s).1 = .error .permission := by
      simp [enter, hv, hne]
    rw [he]
    refine ⟨rfl, ?_, ?_, ?_, ?_⟩
    · rintro ⟨⟩
    · rintro x ⟨⟩
    · rintro f ⟨⟩ -
      show (s.navigate c target).2.route = .login
      rw [hv]
    · rintro f ⟨⟩ ⟨⟩

theorem accounts_within {target : Route} (ht : target.needsSession = true)
    {go : Session → Except Failure α × Session} {later : Session → List Deed}
    {more : Session → List Tiding}
    (hgo : ∀ s, Accounts c s (Failure.of? (go s).1) (go s).2 (later s) (more s)) (k : Console) :
    Accounts c k.session (Failure.of? (k.within c target go).1) (k.within c target go).2.session
      (withinDeeds c target later k.session) (withinTidings c target more k.session) := by
  have hw := within_eq_andThen c target go k
  have hfst := congrArg Prod.fst hw
  have hsnd := congrArg Prod.snd hw
  dsimp only at hfst hsnd
  rw [hfst, hsnd, withinTidings, ← List.append_nil (Tiding.onSuccess _ _)]
  exact (accounts_enter ht k.session).andThen fun _ _ => hgo (enter c target k.session).2

theorem accounts_onward [Entity E] (place : E → Route) (draft : Entity.Draft E) (s : Session) :
    Accounts c s (Failure.of? (onward c place (Collection.create E c .banner draft s)).1)
      (onward c place (Collection.create E c .banner draft s)).2 (onwardDeeds c place draft s)
      [(Use.create draft : Use E).tiding c s] := by
  have hcreate : Accounts c s (Failure.of? (Collection.create E c .banner draft s).1)
      (Collection.create E c .banner draft s).2 _ _ :=
    Session.accounts_use c s (.create draft : Use E)
  rw [onward_eq_andThen]
  exact hcreate.visit place

end Console

end ProxyConsole
