/-
# Deleting from a local list is all or nothing

A deletion asks the server once, whether or not the local list has an entity with the id.
When the answer is a success, whatever its body and even if that was cut off, the list loses
all entities with the id, and the others stay in their order. In every other case the list
stays as it is, and the failure is handed over once and returned. So after any deletions,
with anything done to the session between them, the list is what it was without the entities
whose deletion the server confirmed.

Key definitions: `Collection.removalAsk`, `Collection.Deletes`, `Collection.RemovesOrKeeps`,
`Collection.Removal`, `Collection.strikeAll`, `Collection.confirmed`.
Key theorems: `Session.isAccepted_iff_reply`, `Collection.removesOrKeeps`,
`Collection.strikeAll_entities`, `Collection.all_or_nothing`.
-/
import ProxyConsole.Proofs.Item
import ProxyConsole.Proofs.Report
import ProxyConsole.Proofs.Requests

namespace ProxyConsole

/-- What a plain server makes of a call that it takes is a success when the next reply of its
script is one, whatever its body. -/
theorem Session.isAccepted_iff_reply {c : Setup} (hc : c.isPlain = true) {a : Ask} {s : Session}
    {k : Call} (hk : (s.request c a).call = .ok k) (hl : s.server.listening = true) :
    s.isAccepted c a = true ↔
      ∃ r, s.server.replies.headD Server.lastReply = .answer r ∧ r.isSuccess = true := by
  rw [isAccepted, answer?_of_call hc hk hl]
  cases s.server.replies.headD Server.lastReply with
  | answer r =>
    have hr : r.delivered.isSuccess = r.isSuccess := by
      rw [Answer.isSuccess, Answer.status_delivered, Answer.isSuccess]
    simp [Reply.delivered, Reply.answer?, hr]
  | drop => simp [Reply.delivered, Reply.answer?]
  | hang => simp [Reply.delivered, Reply.answer?]

namespace Collection

variable {E : Type} [Entity E] {c : Setup} {id : String} {s : Session}

/-! ### One deletion -/

/-- The call that deletes the entity with an id. -/
def removalAsk (E : Type) [Entity E] (id : String) : Ask :=
  .delete (Entity.itemPath E id)

/-- A request that deletes the entity with an id, and sends nothing along. -/
structure Deletes (E : Type) [Entity E] (c : Setup) (id : String) (r : Request) : Prop where
  method : r.method = "DELETE"
  address : r.address = c.address (Entity.itemPath E id)
  pairs : r.pairs = none
  body : r.body = none

theorem deletes_request (E : Type) [Entity E] (c : Setup) (id : String) (s : Session) :
    Deletes E c id (s.request c (removalAsk E id)) :=
  ⟨rfl, rfl, rfl, rfl⟩

/-- A deletion that is confirmed takes the entities with the id out of the list. -/
theorem removeFrom_of_isAccepted (h : Handler) (kept : List E)
    (ha : s.isAccepted c (removalAsk E id) = true) :
    removeFrom c h kept id s =
      (.ok (), kept.filter (fun e => Entity.id e ≠ id), (s.ask c (removalAsk E id)).2) := by
  have hok : (s.tell c (removalAsk E id)).1 = .ok () := Session.tell_eq_ok_iff_isAccepted.mpr ha
  have htell : s.tell c (.delete (Entity.itemPath E id)) =
      (.ok (), (s.ask c (removalAsk E id)).2) := Prod.ext hok rfl
  rw [removeFrom, htell, report_ok]

/-- A deletion that is not confirmed fails as its call does; the failure is handed over and the
list stays as it is. -/
theorem removeFrom_of_not_isAccepted (h : Handler) (kept : List E)
    (ha : s.isAccepted c (removalAsk E id) = false) :
    ∃ f, f.isOfCall = true ∧ removeFrom c h kept id s =
      (.error f, kept, h.handle f (s.ask c (removalAsk E id)).2) := by
  cases hr : (s.tell c (removalAsk E id)).1 with
  | ok u =>
    rw [Session.tell_eq_ok_iff_isAccepted.mp hr] at ha
    cases ha
  | error f =>
    have htell : s.tell c (.delete (Entity.itemPath E id)) =
        (.error f, (s.ask c (removalAsk E id)).2) := Prod.ext hr rfl
    refine ⟨f, Session.isOfCall_tell hr, ?_⟩
    rw [removeFrom, htell, report_error]

/-- What a deletion from a local list does. It makes one request, of which arrives what the
server takes. When that is answered with a success, which at a plain server only the next
reply decides, the entities with the id leave the list and nobody is told of anything. When
it is not, the list stays as it is, and the failure that is returned was handed over once. -/
structure RemovesOrKeeps (c : Setup) (h : Handler) (kept : List E) (id : String) (s : Session) :
    Prop where
  session : (removeFrom c h kept id s).2.2 = s.after c ((Use.removeFrom kept id).deeds c h s)
  request : ∃ r, s.requests c ((Use.removeFrom kept id).deeds c h s) = [r] ∧ Deletes E c id r ∧
    (removeFrom c h kept id s).2.2.server.arrivals = s.server.arrivals ++ s.server.arrives r
  reply : c.isPlain = true → s.server.listening = true →
    ∀ k, (s.request c (removalAsk E id)).call = .ok k →
    (s.isAccepted c (removalAsk E id) = true ↔
      ∃ r, s.server.replies.headD Server.lastReply = .answer r ∧ r.isSuccess = true)
  removes : s.isAccepted c (removalAsk E id) = true → removeFrom c h kept id s =
    (.ok (), kept.filter (fun e => Entity.id e ≠ id), (s.ask c (removalAsk E id)).2)
  keeps : s.isAccepted c (removalAsk E id) = false → ∃ f, f.isOfCall = true ∧
    removeFrom c h kept id s = (.error f, kept, h.handle f (s.ask c (removalAsk E id)).2)
  collected : h = .collector → (removeFrom c h kept id s).2.2.collected =
    s.collected ++ (Failure.of? (removeFrom c h kept id s).1).toList

theorem removesOrKeeps (c : Setup) (h : Handler) (kept : List E) (id : String) (s : Session) :
    RemovesOrKeeps c h kept id s where
  session := use_eq_after c h s (.removeFrom kept id)
  request := ⟨s.request c (removalAsk E id), Session.requests_handled c h s _ _,
    deletes_request E c id s, arrivals_use c h s (.removeFrom kept id)⟩
  reply hc hl _ hk := Session.isAccepted_iff_reply hc hk hl
  removes := removeFrom_of_isAccepted h kept
  keeps := removeFrom_of_not_isAccepted h kept
  collected := (handsOver_removeFrom c h kept id s).collected

/-! ### Rows of deletions -/

/-- A deletion from a local list, with what is done to the session before it. -/
structure Removal where
  before : List Deed
  handler : Handler
  id : String

/-- The local list and the session after a deletion. -/
def strike (c : Setup) (x : List E × Session) (r : Removal) : List E × Session :=
  (removeFrom c r.handler x.1 r.id (x.2.after c r.before)).2

/-- The local list and the session after deletions, in their order. -/
def strikeAll (c : Setup) (x : List E × Session) (rs : List Removal) : List E × Session :=
  rs.foldl (strike c) x

/-- The id of a deletion, if the server confirms it. -/
def confirms (E : Type) [Entity E] (c : Setup) (s : Session) (r : Removal) : List String :=
  if (s.after c r.before).isAccepted c (removalAsk E r.id) then [r.id] else []

/-- The ids whose deletion the server confirms, in their order. -/
def confirmed (c : Setup) (x : List E × Session) : List Removal → List String
  | [] => []
  | r :: rs => confirms E c x.2 r ++ confirmed c (strike c x r) rs

theorem strike_entities (c : Setup) (x : List E × Session) (r : Removal) :
    (strike c x r).1 = x.1.filter fun e => Entity.id e ∉ confirms E c x.2 r := by
  unfold strike confirms
  cases ha : (x.2.after c r.before).isAccepted c (removalAsk E r.id) with
  | true =>
    rw [removeFrom_of_isAccepted r.handler x.1 ha, if_pos rfl]
    simp only [List.mem_singleton, ne_eq]
  | false =>
    obtain ⟨f, -, hf⟩ := removeFrom_of_not_isAccepted r.handler x.1 ha
    have hnil : x.1.filter (fun e => Entity.id e ∉ ([] : List String)) = x.1 :=
      List.filter_eq_self.mpr fun e _ => by simp
    rw [hf, if_neg Bool.false_ne_true, hnil]

/-- **After deletions the list is what it was without the entities whose deletion was
confirmed.** -/
theorem strikeAll_entities (c : Setup) (rs : List Removal) (x : List E × Session) :
    (strikeAll c x rs).1 = x.1.filter fun e => Entity.id e ∉ confirmed c x rs := by
  induction rs generalizing x with
  | nil => exact (List.filter_eq_self.mpr fun e _ => by simp [confirmed]).symm
  | cons r rs ih =>
    have hstep : strikeAll c x (r :: rs) = strikeAll c (strike c x r) rs := rfl
    rw [hstep, ih, strike_entities, List.filter_filter, confirmed]
    refine List.filter_congr fun e _ => ?_
    simp [Bool.and_comm]

/-- **Deleting from a local list is all or nothing**, for every type of entities: each
deletion takes out what the server confirmed or leaves the list alone, at any time and with
any list, and after any of them the list is what it was without what was confirmed. -/
theorem all_or_nothing (E : Type) [Entity E] (c : Setup) :
    (∀ h (kept : List E) id s, RemovesOrKeeps c h kept id s) ∧
    ∀ (kept : List E) s rs, (strikeAll c (kept, s) rs).1 =
      kept.filter fun e => Entity.id e ∉ confirmed c (kept, s) rs :=
  ⟨removesOrKeeps c, fun kept s rs => strikeAll_entities c rs (kept, s)⟩

/-- A refused deletion leaves its user, and both users of an id are gone once the server has
confirmed, though its answer was cut off. -/
example :
    let kept : List User := [⟨"1", "a", none, 0, 0⟩, ⟨"2", "b", none, 0, 0⟩, ⟨"1", "c", none, 0, 0⟩]
    let s : Session := .start (.memory none)
      ⟨true, [.answer ⟨500, [], true⟩, .answer ⟨200, [123], false⟩], []⟩
    (strikeAll .loopback (kept, s) [⟨[], .collector, "2"⟩, ⟨[], .banner, "1"⟩]).1 =
      [⟨"2", "b", none, 0, 0⟩] := by
  decide +kernel

end Collection
end ProxyConsole
