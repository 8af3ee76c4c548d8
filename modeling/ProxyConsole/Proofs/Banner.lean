/-
# The line of the error

The user is told of the last call of a collection that failed, unless it was
denied, until that is dismissed. What came back to a call says what the line is:
the reason in the body of an answer that is no success, and in all other cases a
line of its own. Logins, password forms, questions what the server is, and pages
that were not entered leave the line as it is, and none of all these tells of a
success. So the line after a run can be read off the log of the run.

Key definitions: `Tiding`, `Tiding.payload?`, `Tiding.line?`, `Desk.tidings`,
`Desk.log`, `Desk.BannerFollows`.
Key theorems: `Collection.comesBack_use`, `Desk.tells_act`, `Desk.error_act`,
`Desk.error_run`, `Desk.banner_follows`.
-/
import ProxyConsole.Proofs.Denial
import ProxyConsole.Proofs.Desk
import ProxyConsole.Proofs.Window

namespace ProxyConsole

/-! ### What comes back -/

/-- Something that the user may have to be told of. -/
inductive Tiding where
  /-- A call of a collection came back with an answer, or without any; and which answers
  hold what the call asked for. -/
  | reply (r : Option Answer) (holds : Answer → Bool)
  /-- A failure that was told without a call. -/
  | told (p : Payload)

namespace Tiding

/-- The payload of the failure, if it is one: of a denial; of an answer that is no success,
with its body as JSON; of a success that does not hold what was asked for; and of a call
that no answer came to. -/
def payload? : Tiding → Option Payload
  | reply none _ => some ⟨none, .null⟩
  | reply (some r) holds =>
    if r.status = unauthorized then some ⟨some unauthorized, .null⟩
    else if r.isSuccess then
      if holds r then none else some ⟨if r.whole then some r.status else none, .null⟩
    else some ⟨some r.status, r.json⟩
  | told p => some p

/-- The line that the user is told, if any. -/
def line? (x : Tiding) : Option String :=
  x.payload?.bind Payload.line?

/-- What comes of a result that is no failure. -/
def onSuccess (r : Except Failure α) (go : α → List Tiding) : List Tiding :=
  match r with
  | .ok a => go a
  | .error _ => []

end Tiding

/-- A call comes back as a failure, or as none. The failure has the payload that the answer
says, and the user is told of it unless it is a missing permission. -/
structure ComesBack (x : Tiding) (f? : Option Failure) : Prop where
  payload : f?.map Failure.payload = x.payload?
  line : x.line? = f?.bind fun f => if f.isPermission then none else some f.payload.shown

theorem Failure.of?_map (r : Except Failure α) (g : α → β) :
    Failure.of? (r.map g) = Failure.of? r := by
  cases r <;> rfl

theorem Failure.isPermission_of_payload {f : Failure} (h : f.payload.isUnauthorized = false) :
    f.isPermission = false := by
  cases f with
  | permission => cases h
  | _ => rfl

/-- The failure of an answer that is no denial has its status and its body. -/
theorem Failure.payload_ofAnswer {status : Nat} (h : status ≠ unauthorized) (body : Json) :
    (ofAnswer status body).payload = ⟨some status, body⟩ := by
  unfold ofAnswer
  rw [if_neg h]
  split
  · rfl
  · rfl

/-- A failure that is no denial is told with the line of its payload. -/
theorem ComesBack.of_spared {x : Tiding} {f : Failure} (hx : x.payload? = some f.payload)
    (hf : f.payload.isUnauthorized = false) : ComesBack x (some f) where
  payload := hx.symm
  line := by
    have hp : f.isPermission = false := Failure.isPermission_of_payload hf
    rw [Tiding.line?, hx, Option.bind_some, Option.bind_some, Payload.line?, hf, hp]

namespace Session

variable {c : Setup} {a : Ask} {s : Session}

theorem comesBack_decode (read : Outline → Except Mistake α) {r : Answer}
    (hr : r.isSuccess = true) :
    ComesBack (.reply (some r) fun r => (r.decode read).isOk) (Failure.of? (r.decode read)) := by
  have hx : Tiding.payload? (.reply (some r) fun r => (r.decode read).isOk) =
      if (r.decode read).isOk then none
      else some ⟨if r.whole then some r.status else none, .null⟩ := by
    rw [Tiding.payload?, if_neg (status_ne_of_isSuccess hr), if_pos hr]
  cases hd : r.decode read with
  | ok v =>
    rw [hd] at hx
    exact ⟨hx.symm, by rw [Tiding.line?, hx]; rfl⟩
  | error f =>
    rw [hd] at hx
    refine .of_spared (hx.trans ?_) (isUnauthorized_decode hr hd)
    obtain ⟨hw, m, -, rfl⟩ | ⟨hw, rfl⟩ := Answer.decode_eq_error hd
    · rw [hw]
      rfl
    · rw [hw]
      rfl

/-- What becomes of a call is decided by its answer alone, when that is so for a success. -/
theorem comesBack_bind {holds : Answer → Bool} {g : Answer → Except Failure α}
    (hg : ∀ r : Answer, r.isSuccess = true →
      ComesBack (.reply (some r) holds) (Failure.of? (g r))) :
    ComesBack (.reply (s.answer? c a) holds) (Failure.of? ((s.ask c a).1.bind g)) := by
  have ho := ask_outcome c a s
  generalize s.ask c a = x at ho ⊢
  cases ho with
  | unanswered cause h =>
    rw [h]
    exact .of_spared rfl rfl
  | denied r h hd =>
    have hx : Tiding.payload? (.reply (some r) holds) = some Failure.permission.payload :=
      if_pos hd
    rw [h]
    exact ⟨hx.symm, by rw [Tiding.line?, hx]; rfl⟩
  | success r h hr =>
    rw [h]
    exact hg r hr
  | failure r h hd hr =>
    rw [h]
    refine .of_spared ?_ ?_
    · rw [Tiding.payload?, if_neg hd, if_neg (by simp [hr]), Failure.payload_ofAnswer hd]
    · rw [← Bool.not_eq_true, Failure.payload_unauthorized_ofAnswer]
      exact hd

theorem comesBack_fetch (read : Outline → Except Mistake α) :
    ComesBack (.reply (s.answer? c a) fun r => (r.decode read).isOk)
      (Failure.of? (s.fetch c read a).1) :=
  comesBack_bind fun _ hr => comesBack_decode read hr

/-- A call whose answer does not matter holds what was asked for when it succeeds. -/
theorem comesBack_tell :
    ComesBack (.reply (s.answer? c a) fun _ => true) (Failure.of? (s.tell c a).1) := by
  have ht : (s.tell c a).1 = (s.ask c a).1.bind fun _ => .ok () := by
    unfold tell
    dsimp only
    cases (s.ask c a).1 <;> rfl
  rw [ht]
  refine comesBack_bind fun r hr => ?_
  have hx : Tiding.payload? (.reply (some r) fun _ => true) = none := by
    rw [Tiding.payload?, if_neg (status_ne_of_isSuccess hr), if_pos hr, if_pos rfl]
  exact ⟨hx.symm, by rw [Tiding.line?, hx]; rfl⟩

end Session

namespace Collection

variable {E : Type} [Entity E]

/-- Whether an answer holds what a use asks for. To delete asks for nothing. -/
def Use.holds : Use E → Answer → Bool
  | .get _, r => (r.decode (Entity.read (E := E))).isOk
  | .query _, r => (r.decode (Decode.list (Entity.read (E := E)))).isOk
  | .create _, r => (r.decode (Entity.read (E := E))).isOk
  | .update _, r => (r.decode (Entity.read (E := E))).isOk
  | .updateWith _ _, r => (r.decode (Entity.read (E := E))).isOk
  | .remove _, _ => true
  | .removeFrom _ _, _ => true

/-- What comes back to the call of a use. -/
def Use.tiding (c : Setup) (s : Session) (u : Use E) : Tiding :=
  .reply (s.answer? c u.ask) u.holds

/-- What comes back to the call that sends a new password. -/
def passwordTiding (c : Setup) (id password : String) (s : Session) : Tiding :=
  .reply (s.answer? c (passwordAsk id password)) fun _ => true

theorem comesBack_update (c : Setup) (h : Handler) (s : Session) (d : Edit E) :
    ComesBack (Use.update d |>.tiding c s) (Failure.of? (update c h d s).1) := by
  have hu := congrArg Prod.fst (update_eq_report c h d s)
  dsimp only at hu
  rw [hu, Failure.of?_map, report_fst]
  exact Session.comesBack_fetch Entity.read

/-- Every use of a collection comes back as its answer says. -/
theorem comesBack_use (c : Setup) (h : Handler) (s : Session) (u : Use E) :
    ComesBack (u.tiding c s) (u.failure? c h s) := by
  cases u with
  | get id =>
    rw [Use.failure?, get, report_fst]
    exact Session.comesBack_fetch Entity.read
  | query filter =>
    rw [Use.failure?, query, report_fst]
    exact Session.comesBack_fetch (Decode.list Entity.read)
  | create draft =>
    rw [Use.failure?, create, report_fst]
    exact Session.comesBack_fetch Entity.read
  | update d => exact comesBack_update c h s d
  | updateWith change e => exact comesBack_update c h s ((Edit.begin e).apply change)
  | remove e =>
    rw [Use.failure?, remove, report_fst]
    exact Session.comesBack_tell
  | removeFrom kept id =>
    have hr := congrArg Prod.fst (removeFrom_eq_report c h kept id s)
    dsimp only at hr
    rw [Use.failure?, hr, report_fst]
    exact Session.comesBack_tell

theorem comesBack_password (c : Setup) (h : Handler) (id password : String) (s : Session) :
    ComesBack (passwordTiding c id password s)
      (Failure.of? (changePassword c h id password s).1) := by
  rw [changePassword, report_fst]
  exact Session.comesBack_tell

end Collection

/-! ### What deeds do to the lines -/

namespace Deed

/-- Whether a deed neither tells of a success nor dismisses anything. -/
def isPlain : Deed → Bool
  | succeed _ => false
  | dismiss => false
  | _ => true

/-- The line that a deed tells of a failure, if any. -/
def line? : Deed → Option String
  | fail p => p.line?
  | _ => none

end Deed

namespace Notices

/-- Time shows no success. -/
theorem success_elapse {now : Nat} {n : Notices} {text : String}
    (h : (n.elapse now).success = some text) : n.success = some text := by
  rw [elapse, foldl_fire] at h
  dsimp only at h
  split at h
  · exact h
  · cases h

end Notices

namespace Session

/-- If sending a request is heard at all, it is heard as time that passes. -/
theorem eq_wait_of_pause? {c : Setup} {r : Request} {s : Session} {x : Signal}
    (h : s.pause? c r = some x) : ∃ ms, x = .wait ms := by
  unfold pause? at h
  split at h
  · next k _ =>
    cases hr : (s.server.take k).1 with
    | answer a =>
      rw [hr] at h
      cases h
    | drop =>
      rw [hr] at h
      cases h
    | hang =>
      rw [hr, Reply.pause?, Option.map_eq_some_iff] at h
      obtain ⟨seconds, -, rfl⟩ := h
      exact ⟨seconds * 1000, rfl⟩
  · cases h

/-- A plain deed is heard as a line, as time that passes, or not at all. -/
theorem signal?_of_isPlain {c : Setup} {s : Session} {x : Deed} {y : Signal}
    (hx : x.isPlain = true) (h : s.signal? c x = some y) :
    (∃ p, x = .fail p ∧ y = .fail p) ∨ (x.line? = none ∧ ∃ ms, y = .wait ms) := by
  cases x with
  | call a => exact .inr ⟨rfl, eq_wait_of_pause? h⟩
  | login credentials => exact .inr ⟨rfl, eq_wait_of_pause? h⟩
  | visit target => cases h
  | fail p =>
    cases h
    exact .inl ⟨p, rfl, rfl⟩
  | collect f => cases h
  | succeed text => cases hx
  | dismiss => cases hx
  | wait ms =>
    cases h
    exact .inr ⟨rfl, ms, rfl⟩

/-- A plain deed that is not heard tells nothing. -/
theorem line?_of_signal? {c : Setup} {s : Session} {x : Deed} (h : s.signal? c x = none) :
    x.line? = none := by
  cases x with
  | fail p => cases h
  | _ => rfl

theorem error_does {c : Setup} {s : Session} {x : Deed} (hx : x.isPlain = true) :
    (s.does c x).notices.error = x.line?.or s.notices.error := by
  rw [(hears_does c s x).notices]
  cases hs : s.signal? c x with
  | none =>
    rw [line?_of_signal? hs]
    rfl
  | some y =>
    obtain ⟨p, rfl, rfl⟩ | ⟨hl, ms, rfl⟩ := signal?_of_isPlain hx hs
    · exact Notices.error_heard c.window s.clock s.notices (.fail p)
    · rw [hl]
      exact Notices.error_heard c.window s.clock s.notices (.wait ms)

/-- A plain deed shows no success. -/
theorem success_does {c : Setup} {s : Session} {x : Deed} {text : String} (hx : x.isPlain = true)
    (h : (s.does c x).notices.success = some text) : s.notices.success = some text := by
  rw [(hears_does c s x).notices] at h
  cases hs : s.signal? c x with
  | none =>
    rw [hs] at h
    exact h
  | some y =>
    rw [hs] at h
    obtain ⟨p, rfl, rfl⟩ | ⟨-, ms, rfl⟩ := signal?_of_isPlain hx hs
    · simp only [Option.elim_some, Notices.heard] at h
      split at h
      · exact h
      · exact h
    · exact Notices.success_elapse h

variable {c : Setup} {s : Session}

/-- The line after a row of plain deeds is the latest that one of them tells. -/
theorem error_after : ∀ {past : List Deed}, (∀ x ∈ past, x.isPlain = true) →
    (s.after c past).notices.error = (past.findSome? Deed.line?).or s.notices.error
  | [], _ => rfl
  | x :: past, h => by
    obtain ⟨hx, hpast⟩ := List.forall_mem_cons.mp h
    rw [after, error_does hx, error_after hpast, List.findSome?_cons]
    cases x.line? <;> rfl

theorem success_after {text : String} : ∀ {past : List Deed}, (∀ x ∈ past, x.isPlain = true) →
    (s.after c past).notices.success = some text → s.notices.success = some text
  | [], _, hs => hs
  | x :: past, h, hs => by
    obtain ⟨hx, hpast⟩ := List.forall_mem_cons.mp h
    exact success_after hpast (success_does hx hs)

end Session

/-! ### What operations tell -/

/-- A row of deeds tells the user what came back, and nothing else; the latest is in front in
both rows. -/
structure Tells (deeds : List Deed) (tidings : List Tiding) : Prop where
  plain : ∀ x ∈ deeds, x.isPlain = true
  line : deeds.findSome? Deed.line? = tidings.findSome? Tiding.line?

/-- What is told of a call whose failure a handler is given: whoever collects failures tells
the user nothing. -/
def Handler.tidings (h : Handler) (x : Tiding) : List Tiding :=
  match h with
  | banner => [x]
  | collector => []

namespace Tells

variable {deeds later : List Deed} {tidings news : List Tiding}

theorem nil : Tells [] [] where
  plain := by rintro x ⟨⟩
  line := rfl

/-- A plain deed without a line. -/
theorem quiet {x : Deed} (hx : x.isPlain = true) (hl : x.line? = none) : Tells [x] [] where
  plain := List.forall_mem_singleton.mpr hx
  line := by rw [List.findSome?_singleton, hl]; rfl

theorem append (h₂ : Tells later news) (h₁ : Tells deeds tidings) :
    Tells (later ++ deeds) (news ++ tidings) where
  plain := List.forall_mem_append.mpr ⟨h₂.plain, h₁.plain⟩
  line := by rw [List.findSome?_append, List.findSome?_append, h₂.line, h₁.line]

theorem onSuccess {r : Except Failure α} {go : α → List Deed} {go' : α → List Tiding}
    (h : ∀ a, Tells (go a) (go' a)) : Tells (Deed.onSuccess r go) (Tiding.onSuccess r go') := by
  cases r with
  | ok a => exact h a
  | error f => exact nil

/-- To go on with deeds that tell nothing tells nothing more. -/
theorem onward {r : Except Failure α} {go : α → List Deed} (h : ∀ a, Tells (go a) [])
    (h₁ : Tells deeds tidings) : Tells (Deed.onSuccess r go ++ deeds) tidings := by
  have h₂ : Tells (Deed.onSuccess r go) [] := by
    cases r with
    | ok a => exact h a
    | error f => exact nil
  exact h₂.append h₁

end Tells

/-- A handler tells the user of a failure with the line of its payload, or not at all. -/
theorem Handler.tells (h : Handler) (f : Failure) :
    Tells (h.deeds f) (h.tidings (.told f.payload)) := by
  cases h with
  | collector => exact .quiet rfl rfl
  | banner =>
    unfold deeds tidings
    cases f with
    | permission => exact ⟨by rintro x ⟨⟩, rfl⟩
    | _ => exact ⟨List.forall_mem_singleton.mpr rfl, rfl⟩

/-- A call whose failure a handler is given tells what came back to it. -/
theorem Handler.tells_call (h : Handler) {x : Tiding} {f? : Option Failure}
    (hx : ComesBack x f?) (a : Ask) : Tells (f?.elim [] h.deeds ++ [.call a]) (h.tidings x) := by
  have hline : Tells (f?.elim [] h.deeds) (h.tidings x) := by
    cases f? with
    | none =>
      have hl : x.line? = none := hx.line
      cases h with
      | banner => exact ⟨by rintro x ⟨⟩, by simp [tidings, hl]⟩
      | collector => exact .nil
    | some f =>
      have hl : x.line? = Tiding.line? (.told f.payload) := by
        rw [Tiding.line?, ← hx.payload]
        rfl
      have hf := h.tells f
      cases h with
      | banner => exact ⟨hf.plain, by rw [Option.elim_some, hf.line]; simp [tidings, hl]⟩
      | collector => exact hf
  rw [← List.append_nil (h.tidings x)]
  exact hline.append (.quiet rfl rfl)

theorem Collection.tells_use [Entity E] (c : Setup) (h : Handler) (s : Session) (u : Use E) :
    Tells (u.deeds c h s) (h.tidings (u.tiding c s)) :=
  h.tells_call (comesBack_use c h s u) u.ask

open Collection (Use tells_use)

/-! ### Pages -/

namespace RecordScreen

/-- What comes back when the page of a record is opened. -/
def loadTidings (c : Setup) (id : String) (s : Session) : List Tiding :=
  let r := Collection.get Record c .banner id s
  Tiding.onSuccess r.1 (fun _ => [(Use.query [] : Use User).tiding c r.2]) ++
    [(Use.get id : Use Record).tiding c s]

theorem tells_load (c : Setup) (id : String) (s : Session) :
    Tells (loadDeeds c id s) (loadTidings c id s) :=
  Tells.append (.onSuccess fun _ => tells_use c .banner _ (.query []))
    (tells_use c .banner s (.get id))

/-- The use that an act on the page makes of the collection. -/
def use (p : RecordScreen) : Act → Use Record
  | .setBlacklist blacklist => .updateWith (fun r => { r with blacklist }) p.record
  | .saveOwner email => .updateWith (fun r => (r.retarget email p.users).2) p.record
  | .clearClients => .updateWith (fun r => { r with clients := [] }) p.record
  | .delete => .remove p.record

theorem tells_act (c : Setup) (p : RecordScreen) (s : Session) (a : Act) :
    Tells (p.deeds c s a) [(p.use a).tiding c s] := by
  have hu := tells_use c .banner s (p.use a)
  cases a with
  | setBlacklist blacklist => exact hu
  | saveOwner email => exact hu
  | clearClients => exact hu
  | delete => exact hu.onward fun _ => .quiet rfl rfl

end RecordScreen

namespace UserScreen

/-- What comes back when the page of a user is opened. -/
def loadTidings (c : Setup) (id : String) (s : Session) : List Tiding :=
  let r := Collection.get User c .banner id s
  Tiding.onSuccess r.1 (fun _ => [(Use.query [] : Use Record).tiding c r.2]) ++
    [(Use.get id : Use User).tiding c s]

theorem tells_load (c : Setup) (id : String) (s : Session) :
    Tells (loadDeeds c id s) (loadTidings c id s) :=
  Tells.append (.onSuccess fun _ => tells_use c .banner _ (.query []))
    (tells_use c .banner s (.get id))

/-- What an act on the page has to tell; what becomes of the form is told on the page alone. -/
def tidings (c : Setup) (p : UserScreen) (s : Session) : Act → List Tiding
  | .fill _ _ => []
  | .submitPassword => []
  | .delete => [(Use.remove p.user).tiding c s]

theorem tells_act (c : Setup) (p : UserScreen) (s : Session) (a : Act) :
    Tells (p.deeds c s a) (p.tidings c s a) := by
  cases a with
  | fill password confirmation => exact .nil
  | submitPassword =>
    unfold deeds
    dsimp only
    split
    · exact .nil
    · exact .quiet rfl rfl
  | delete => exact (tells_use c .banner s (.remove p.user)).onward fun _ => .quiet rfl rfl

end UserScreen

namespace Console

variable {c : Setup} {target : Route}

/-- What comes back on a page, once it was entered. -/
def withinTidings (c : Setup) (target : Route) (go : Session → List Tiding) (s : Session) :
    List Tiding :=
  Tiding.onSuccess (enter c target s).1 fun _ => go (enter c target s).2

/-- Nothing is sent from a page that was not entered. -/
theorem withinTidings_of_ne {s : Session} (h : (s.navigate c target).1 ≠ target)
    (go : Session → List Tiding) : withinTidings c target go s = [] := by
  unfold withinTidings enter
  dsimp only
  rw [if_neg h]
  rfl

theorem tells_within {later : Session → List Deed} {go : Session → List Tiding}
    (h : ∀ s, Tells (later s) (go s)) (s : Session) :
    Tells (withinDeeds c target later s) (withinTidings c target go s) := by
  rw [← List.append_nil (withinTidings c target go s)]
  exact Tells.append (.onSuccess fun _ => h _) (.quiet rfl rfl)

theorem tells_onward [Entity E] (place : E → Route) (draft : Entity.Draft E) (s : Session) :
    Tells (onwardDeeds c place draft s) [(Use.create draft : Use E).tiding c s] :=
  (tells_use c .banner s (.create draft)).onward fun _ => .quiet rfl rfl

end Console

/-! ### The desk -/

namespace Act

def isDismiss : Act → Bool
  | dismiss => true
  | _ => false

/-- Whether an act tells of a success. -/
def isSuccess : Act → Bool
  | succeed _ => true
  | _ => false

/-- Whether an act makes no call of a collection and tells of no failure: logins, checks and
the forms for a password make calls of their own. -/
def isAside : Act → Bool
  | login _ _ => true
  | logout => true
  | check => true
  | navigate _ => true
  | onUser _ (.fill _ _) => true
  | onUser _ .submitPassword => true
  | succeed _ => true
  | wait _ => true
  | _ => false

/-- The page that an act is done on, if it has to be entered for it. -/
def page? : Act → Option Route
  | records => some .records
  | users => some .users
  | openRecord id => some (.record id)
  | openUser id => some (.user id)
  | newRecord _ => some .newRecord
  | newUser _ => some .newUser
  | _ => none

end Act

namespace Desk

/-- What comes back of an act that the user may have to be told of, the latest in front. -/
def tidings (c : Setup) (d : Desk) : Act → List Tiding
  | .records =>
    Console.withinTidings c .records (fun s => [(Use.query [] : Use Record).tiding c s]) d.session
  | .users =>
    Console.withinTidings c .users (fun s => [(Use.query [] : Use User).tiding c s]) d.session
  | .openRecord id =>
    Console.withinTidings c (.record id) (RecordScreen.loadTidings c id) d.session
  | .openUser id => Console.withinTidings c (.user id) (UserScreen.loadTidings c id) d.session
  | .newRecord draft =>
    Console.withinTidings c .newRecord
      (fun s => [(Use.create draft : Use Record).tiding c s]) d.session
  | .newUser draft =>
    Console.withinTidings c .newUser
      (fun s => [(Use.create draft : Use User).tiding c s]) d.session
  | .onRecord n a => (d.records[n]?.map fun p => [(p.use a).tiding c d.session]).getD []
  | .onUser n a => (d.users[n]?.map fun p => p.tidings c d.session a).getD []
  | .useRecords h u => h.tidings (u.tiding c d.session)
  | .useUsers h u => h.tidings (u.tiding c d.session)
  | .changePassword h id password =>
    h.tidings (Collection.passwordTiding c id password d.session)
  | .fail p => [.told p]
  | .handle f => [.told f.payload]
  | _ => []

/-- The line that an act tells of a failure, if any. -/
def line? (c : Setup) (d : Desk) (a : Act) : Option String :=
  (d.tidings c a).findSome? Tiding.line?

/-- The acts of a run, each with the desk on which it was done, the latest in front. -/
def log (c : Setup) (d : Desk) : List Act → List (Desk × Act)
  | [] => []
  | a :: acts => (d.act c a).log c acts ++ [(d, a)]

variable {c : Setup} {d : Desk} {a : Act}

theorem tells_act (hs : a.isSuccess = false) (hd : a.isDismiss = false) :
    Tells (d.deeds c a) (d.tidings c a) := by
  cases a with
  | login email password => exact (Tells.quiet rfl rfl).onward fun _ => .quiet rfl rfl
  | logout => exact .quiet rfl rfl
  | check =>
    unfold deeds Console.checkDeeds
    dsimp only
    split
    · exact .quiet rfl rfl
    · exact .nil
  | navigate target => exact .quiet rfl rfl
  | records => exact Console.tells_within (fun s => tells_use c .banner s (.query [])) d.session
  | users => exact Console.tells_within (fun s => tells_use c .banner s (.query [])) d.session
  | openRecord id => exact Console.tells_within (RecordScreen.tells_load c id) d.session
  | openUser id => exact Console.tells_within (UserScreen.tells_load c id) d.session
  | newRecord draft =>
    exact Console.tells_within (Console.tells_onward (E := Record) _ draft) d.session
  | newUser draft =>
    exact Console.tells_within (Console.tells_onward (E := User) _ draft) d.session
  | onRecord n a =>
    simp only [deeds, tidings]
    cases d.records[n]? with
    | some p => exact p.tells_act c d.session a
    | none => exact .nil
  | onUser n a =>
    simp only [deeds, tidings]
    cases d.users[n]? with
    | some p => exact p.tells_act c d.session a
    | none => exact .nil
  | useRecords h u => exact tells_use c h d.session u
  | useUsers h u => exact tells_use c h d.session u
  | changePassword h id password =>
    exact h.tells_call (Collection.comesBack_password c h id password d.session) _
  | fail p => exact ⟨List.forall_mem_singleton.mpr rfl, rfl⟩
  | handle f => exact Handler.banner.tells f
  | succeed text => cases hs
  | dismiss => cases hd
  | wait ms => exact .quiet rfl rfl

/-- An act that does not dismiss the line replaces it by the line it tells, if it tells one. -/
theorem error_act (hd : a.isDismiss = false) :
    (d.act c a).session.notices.error = (d.line? c a).or d.session.notices.error := by
  cases hs : a.isSuccess with
  | true =>
    cases a with
    | succeed text => exact Notices.error_heard c.window _ _ (.succeed text)
    | _ => cases hs
  | false =>
    have ht := tells_act (c := c) (d := d) hs hd
    calc (d.act c a).session.notices.error
        = (d.session.after c (d.deeds c a)).notices.error := by rw [session_act]
      _ = ((d.deeds c a).findSome? Deed.line?).or d.session.notices.error :=
          Session.error_after ht.plain
      _ = (d.line? c a).or d.session.notices.error := by rw [ht.line, line?]

/-- No success is shown after an act that was not shown before, unless the act tells of it. -/
theorem success_act (hs : a.isSuccess = false) {text : String}
    (h : (d.act c a).session.notices.success = some text) :
    d.session.notices.success = some text := by
  cases hd : a.isDismiss with
  | true =>
    cases a with
    | dismiss => cases h
    | _ => cases hd
  | false =>
    have ht := tells_act (c := c) (d := d) hs hd
    rw [session_act] at h
    exact Session.success_after ht.plain h

/-- What one act makes of the line. -/
theorem error_step (c : Setup) (d : Desk) (a : Act) : (d.act c a).session.notices.error =
    if a.isDismiss then none else (d.line? c a).or d.session.notices.error := by
  cases hd : a.isDismiss with
  | true =>
    cases a with
    | dismiss => rfl
    | _ => cases hd
  | false => exact error_act hd

/-- The line after a run is made of the line before it, act by act. -/
theorem error_run (c : Setup) (acts : List Act) (d : Desk) :
    (d.run c acts).session.notices.error =
      (d.log c acts).foldr
        (fun x line => if x.2.isDismiss then none else (x.1.line? c x.2).or line)
        d.session.notices.error := by
  induction acts generalizing d with
  | nil => rfl
  | cons a acts ih =>
    have hr : d.run c (a :: acts) = (d.act c a).run c acts := rfl
    rw [hr, ih, log, List.foldr_append, List.foldr_cons, List.foldr_nil, error_step]

theorem line?_of_isAside (h : a.isAside = true) : d.line? c a = none := by
  unfold line?
  cases a with
  | onUser n a =>
    cases a with
    | delete => cases h
    | _ =>
      simp only [tidings]
      cases d.users[n]? <;> rfl
  | login | logout | check | navigate | succeed | wait => rfl
  | _ => cases h

theorem line?_of_refused {target : Route} (hp : a.page? = some target)
    (h : (d.session.navigate c target).1 ≠ target) : d.line? c a = none := by
  have hn (go : Session → List Tiding) : Console.withinTidings c target go d.session = [] :=
    Console.withinTidings_of_ne h go
  unfold line?
  cases a with
  | records | users | openRecord | openUser | newRecord | newUser =>
    cases hp
    rw [tidings, hn]
    rfl
  | _ => cases hp

/-- How the line of the error follows what is done. After a run it is the line of the last
act since the last dismissal that tells one, and an act tells the latest line of what came
back to its calls. A call of a collection comes back as its answer says. Acts that make no
call of a collection, and those on pages that were not entered, leave the line as it is; and
no act shows a success but one that tells of it. What comes back from a plain server is what
its script says. -/
structure BannerFollows (c : Setup) : Prop where
  run : ∀ slot server acts, ((start slot server).run c acts).session.notices.error =
    lastSince (fun x => x.2.isDismiss) (fun x => x.1.line? c x.2) ((start slot server).log c acts)
  step : ∀ d a, a.isDismiss = false →
    (act c d a).session.notices.error = (d.line? c a).or d.session.notices.error
  use : ∀ (E : Type) [Entity E] (u : Use E) h s, ComesBack (u.tiding c s) (u.failure? c h s)
  password : ∀ h id password s, ComesBack (Collection.passwordTiding c id password s)
    (Failure.of? (Collection.changePassword c h id password s).1)
  aside : ∀ d a, a.isAside = true → (act c d a).session.notices.error = d.session.notices.error
  refused : ∀ d a target, a.page? = some target → (d.session.navigate c target).1 ≠ target →
    (act c d a).session.notices.error = d.session.notices.error
  success : ∀ d a, a.isSuccess = false → ∀ text,
    (act c d a).session.notices.success = some text → d.session.notices.success = some text
  script : c.isPlain = true → Session.FollowsScript c

/-- **The line of the error is that of the last call that failed.** -/
theorem banner_follows (c : Setup) : BannerFollows c where
  run slot server acts := by
    rw [error_run, lastSince_eq_foldr]
    rfl
  step d a := error_act
  use _ _ u h s := Collection.comesBack_use c h s u
  password := Collection.comesBack_password c
  aside d a h := by
    rw [error_step, line?_of_isAside h]
    cases a <;> first | rfl | cases h
  refused d a target hp h := by
    rw [error_step, line?_of_refused hp h]
    cases a <;> first | rfl | cases hp
  success d a hs text := success_act hs
  script := Session.follows_script

end Desk
end ProxyConsole
