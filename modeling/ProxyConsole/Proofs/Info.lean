/-
# What the server tells of itself is asked for once

The first check of a console that finds the session live asks the server to tell of itself,
and nothing else on a desk ever does, whatever is done and whatever comes back. What that one
call brings is what the console knows of the server from then on, for ever: there is no
second call when it fails, when it is denied, or after another login. Until then the console
knows nothing.

Key definitions: `Deed.asksInfo`, `Console.told`, `Desk.NeverLive`, `Desk.AsksOnce`.
Key theorems: `Desk.act_of_settled`, `Desk.run_of_settled`, `Desk.asks_once`.
-/
import ProxyConsole.Proofs.Calls
import ProxyConsole.Proofs.Session

namespace ProxyConsole

/-! ### Deeds that do not ask -/

namespace Deed

/-- Whether a deed is the call by which the server is asked to tell of itself. -/
def asksInfo : Deed → Bool
  | call a => a.method == "GET" && a.path == Console.infoPath
  | _ => false

/-- Deeds among which the server is not asked to tell of itself. -/
def Silent (deeds : List Deed) : Prop :=
  ∀ x ∈ deeds, x.asksInfo = false

variable {deeds later : List Deed}

theorem Silent.nil : Silent [] :=
  List.forall_mem_nil _

theorem Silent.append (h₂ : Silent later) (h₁ : Silent deeds) : Silent (later ++ deeds) :=
  List.forall_mem_append.mpr ⟨h₂, h₁⟩

theorem Silent.countP (h : Silent deeds) : deeds.countP asksInfo = 0 :=
  List.countP_eq_zero.mpr fun x hx => by rw [h x hx]; exact Bool.false_ne_true

/-- A call to a collection is not that call. -/
theorem asksInfo_of_leads {a : Ask} (h : a.Leads) : (call a).asksInfo = false := by
  have hrecord : ¬ (Entity.collection Record).toList <+: Console.infoPath.toList := by decide
  have huser : ¬ (Entity.collection User).toList <+: Console.infoPath.toList := by decide
  rw [asksInfo, Bool.and_eq_false_iff, beq_eq_false_iff_ne, beq_eq_false_iff_ne]
  refine Or.inr fun hp => ?_
  obtain ⟨rest, ha⟩ := h
  rw [hp] at ha
  rcases ha with ha | ha
  · exact hrecord (ha ▸ String.toList_append ▸ List.prefix_append _ _)
  · exact huser (ha ▸ String.toList_append ▸ List.prefix_append _ _)

theorem Leads.silent (h : Leads deeds) : Silent deeds := by
  intro x hx
  cases x with
  | call a => exact asksInfo_of_leads (h a hx)
  | _ => rfl

end Deed

open Deed (Silent)

namespace Console

/-! ### What a console knows of the server -/

/-- What the server tells of itself when it is asked under a session, if its answer holds it. -/
def told (c : Setup) (s : Session) : Option ServerInfo :=
  (fetchInfo c s).1.toOption

/-- What is told is what a success holds that arrives whole. -/
theorem told_eq_some {c : Setup} {s : Session} {info : ServerInfo} : told c s = some info ↔
    ∃ a, s.answer? c (.get infoPath []) = some a ∧ a.isSuccess = true ∧ a.whole = true ∧
      Decode.document ServerInfo.read a.body = .ok info := by
  rw [told, toOption_eq_some, fetchInfo, Session.fetch_eq_ok]

/-- Of the server a console knows what it knew, and whether it was asked is as it was. -/
def Knows (k k' : Console) : Prop :=
  k'.info = k.info ∧ k'.infoRequested = k.infoRequested

theorem Knows.refl (k : Console) : k.Knows k := ⟨rfl, rfl⟩

theorem Knows.trans {k₁ k₂ k₃ : Console} (h₁ : k₁.Knows k₂) (h₂ : k₂.Knows k₃) : k₁.Knows k₃ :=
  ⟨h₂.1.trans h₁.1, h₂.2.trans h₁.2⟩

variable (c : Setup)

theorem knows_login (email password : String) (k : Console) :
    k.Knows (k.login c email password).2 := by
  unfold login
  split <;> exact ⟨rfl, rfl⟩

theorem knows_within (target : Route) (go : Session → Except Failure α × Session) (k : Console) :
    k.Knows (k.within c target go).2 := by
  unfold within
  split <;> exact ⟨rfl, rfl⟩

/-- A check that finds no live session, or comes too late to ask, changes nothing. -/
theorem checkLive_of_settled {k : Console}
    (h : k.session.isLive c = true → k.infoRequested = true) : (k.checkLive c).2 = k := by
  unfold checkLive
  split
  · next hl => rw [if_pos (h hl)]
  · rfl

/-- The first check that finds the session live asks, and keeps what it is told. -/
theorem checkLive_of_live {k : Console} (hl : k.session.isLive c = true)
    (hr : k.infoRequested = false) (hn : k.info = none) :
    checkDeeds c k = [.call (.get infoPath [])] ∧
    (k.checkLive c).2.info = told c k.session ∧ (k.checkLive c).2.infoRequested = true := by
  refine ⟨by rw [checkDeeds, hl, hr]; rfl, ?_⟩
  unfold checkLive told
  rw [if_pos hl, hr, if_neg Bool.false_ne_true]
  generalize fetchInfo c k.session = r
  obtain ⟨f | info, s⟩ := r
  · exact ⟨hn, rfl⟩
  · exact ⟨rfl, rfl⟩

end Console

/-! ### Runs -/

namespace Desk

variable {c : Setup}

theorem run_append (d : Desk) (before later : List Act) :
    d.run c (before ++ later) = (d.run c before).run c later :=
  List.foldl_append

theorem trace_append : ∀ (before : List Act) (d : Desk) (later : List Act),
    d.trace c (before ++ later) = (d.run c before).trace c later ++ d.trace c before
  | [], d, later => (List.append_nil _).symm
  | a :: before, d, later => by
    rw [List.cons_append, trace, trace, trace_append before, ← List.append_assoc]
    rfl

/-- No check of a run finds the session live. -/
def NeverLive (c : Setup) (d : Desk) (acts : List Act) : Prop :=
  ∀ before later, acts = before ++ .check :: later → (d.run c before).session.isLive c = false

theorem neverLive_cons {d : Desk} {a : Act} {acts : List Act} :
    d.NeverLive c (a :: acts) ↔
      (a = .check → d.session.isLive c = false) ∧ (d.act c a).NeverLive c acts := by
  constructor
  · intro h
    exact ⟨fun ha => h [] acts (by rw [ha]; rfl),
      fun before later he => h (a :: before) later (by rw [he]; rfl)⟩
  · rintro ⟨ha, h⟩ before later he
    cases before with
    | nil => exact ha (List.cons.inj he).1
    | cons b before =>
      obtain ⟨rfl, hacts⟩ := List.cons.inj he
      exact h before later hacts

/-- But for a check, whatever is done, the console knows of the server what it knew. -/
theorem knows_act {a : Act} (ha : a ≠ .check) (d : Desk) : d.console.Knows (d.act c a).console := by
  cases a with
  | login email password => exact Console.knows_login c email password d.console
  | check => exact absurd rfl ha
  | records | users | openRecord | openUser | newRecord | newUser =>
    exact Console.knows_within c _ _ d.console
  | onRecord n a =>
    simp only [act]
    cases d.records[n]? with
    | some p => exact ⟨rfl, rfl⟩
    | none => exact .refl _
  | onUser n a =>
    simp only [act]
    cases d.users[n]? with
    | some p => exact ⟨rfl, rfl⟩
    | none => exact .refl _
  | logout | navigate | useRecords | useUsers | changePassword | fail | handle | succeed | dismiss
  | wait => exact ⟨rfl, rfl⟩

/-- An act that is no check, or comes too late to ask, or finds no live session, does not ask,
and the console knows what it knew. -/
theorem act_of_settled {d : Desk} {a : Act}
    (h : a = .check → d.session.isLive c = true → d.console.infoRequested = true) :
    Silent (d.deeds c a) ∧ d.console.Knows (d.act c a).console := by
  by_cases ha : a = .check
  · subst ha
    have hk : (d.act c .check).console = d.console := Console.checkLive_of_settled c (h rfl)
    refine ⟨?_, hk ▸ .refl _⟩
    simp only [deeds, Console.checkDeeds]
    split
    · next hq =>
      rw [Bool.and_eq_true, Bool.not_eq_true'] at hq
      rw [h rfl hq.1] at hq
      exact absurd hq.2 Bool.noConfusion
    · exact .nil
  · exact ⟨(leads_deeds ha d).silent, knows_act ha d⟩

/-- Nothing is asked in a run after the call was made, or in which no check finds the session
live; and the console knows afterwards what it knew before. -/
theorem run_of_settled : ∀ (acts : List Act) (d : Desk),
    d.console.infoRequested = true ∨ d.NeverLive c acts →
    Silent (d.trace c acts) ∧ d.console.Knows (d.run c acts).console
  | [], d, _ => ⟨.nil, .refl _⟩
  | a :: acts, d, h => by
    have hstep : Silent (d.deeds c a) ∧ d.console.Knows (d.act c a).console := by
      refine act_of_settled fun ha hl => ?_
      rcases h with h | h
      · exact h
      · rw [(neverLive_cons.mp h).1 ha] at hl
        cases hl
    have hrest := run_of_settled acts (d.act c a) (h.imp (fun h => hstep.2.2.trans h)
      fun h => (neverLive_cons.mp h).2)
    exact ⟨hrest.1.append hstep.1, hstep.2.trans hrest.2⟩

/-- In a run some check is the first to find the session live, unless none does. -/
theorem neverLive_or : ∀ (acts : List Act) (d : Desk), d.NeverLive c acts ∨
    ∃ before later, acts = before ++ .check :: later ∧ d.NeverLive c before ∧
      (d.run c before).session.isLive c = true
  | [], d => Or.inl fun before later he => by simp at he
  | a :: acts, d => by
    by_cases ha : a = .check ∧ d.session.isLive c = true
    · obtain ⟨rfl, hl⟩ := ha
      exact Or.inr ⟨[], acts, rfl, fun before later he => (by simp at he), hl⟩
    · have ha : a = .check → d.session.isLive c = false := fun h =>
        Bool.eq_false_iff.mpr fun hl => ha ⟨h, hl⟩
      rcases neverLive_or acts (d.act c a) with h | ⟨before, later, rfl, h, hl⟩
      · exact Or.inl (neverLive_cons.mpr ⟨ha, h⟩)
      · exact Or.inr ⟨a :: before, later, rfl, neverLive_cons.mpr ⟨ha, h⟩, hl⟩

/-- A desk on which the server is asked once to tell of itself: the first check that finds
the session live asks, before it nothing is known, and after it what that call brought, for
ever. A run without such a check does not ask. The calls that are counted are those of the
run: it does to the session what its trace says, and nothing else. -/
structure AsksOnce (c : Setup) (d : Desk) : Prop where
  session : ∀ acts, (d.run c acts).session = d.session.after c (d.trace c acts)
  first_or : ∀ acts, d.NeverLive c acts ∨ ∃ before later, acts = before ++ .check :: later ∧
    d.NeverLive c before ∧ (d.run c before).session.isLive c = true
  unasked : ∀ acts, d.NeverLive c acts →
    (d.trace c acts).countP Deed.asksInfo = 0 ∧ (d.run c acts).console.info = none
  first : ∀ before, d.NeverLive c before → (d.run c before).session.isLive c = true →
    (d.run c before).deeds c .check = [.call (.get Console.infoPath [])]
  asked : ∀ before later, d.NeverLive c before → (d.run c before).session.isLive c = true →
    (d.trace c (before ++ .check :: later)).countP Deed.asksInfo = 1 ∧
    (d.run c (before ++ .check :: later)).console.info = Console.told c (d.run c before).session
  told_iff : ∀ before info, Console.told c (d.run c before).session = some info ↔
    ∃ a, (d.run c before).session.answer? c (.get Console.infoPath []) = some a ∧
      a.isSuccess = true ∧ a.whole = true ∧ Decode.document ServerInfo.read a.body = .ok info

/-- **The server is asked once to tell of itself.** Whatever is done on a desk, in any
session, and whatever the server replies: the call is made at most once, by the first check
that finds the session live, and what it brings is known from then on. -/
theorem asks_once (c : Setup) (s : Session) (records : List RecordScreen)
    (users : List UserScreen) : AsksOnce c ⟨Console.start s, records, users⟩ := by
  refine ⟨fun acts => session_run c acts _, fun acts => neverLive_or acts _, fun acts h => ?_,
    fun before h hl => ?_, fun before later h hl => ?_, fun _ _ => Console.told_eq_some⟩
  · obtain ⟨hs, hk⟩ := run_of_settled acts _ (Or.inr h)
    exact ⟨hs.countP, hk.1⟩
  · obtain ⟨-, hk⟩ := run_of_settled before _ (Or.inr h)
    exact (Console.checkLive_of_live c hl hk.2 hk.1).1
  · obtain ⟨hs, hk⟩ := run_of_settled before _ (Or.inr h)
    obtain ⟨hasks, hinfo, hreq⟩ := Console.checkLive_of_live c hl hk.2 hk.1
    generalize (⟨Console.start s, records, users⟩ : Desk) = d at *
    obtain ⟨hs', hk'⟩ := run_of_settled (c := c) later ((d.run c before).act c .check) (Or.inl hreq)
    have hone : ((d.run c before).deeds c .check).countP Deed.asksInfo = 1 := by
      rw [show (d.run c before).deeds c .check = _ from hasks]
      decide
    refine ⟨?_, ?_⟩
    · rw [trace_append, trace, List.countP_append, List.countP_append, hs.countP, hs'.countP, hone]
    · rw [run_append]
      exact hk'.1.trans hinfo

end Desk
end ProxyConsole
