/-
# Where calls lead

Whatever is done on a desk, a call leads to the collection of the records or to that of
the users, or else to what the server tells of itself, and that is only asked for by a
check. So what holds of these paths holds of every call of a run.

Key definitions: `Ask.Leads`, `Deed.Leads`, `IsServed`.
Key theorems: `Collection.leads_use`, `Desk.leads_deeds`, `Desk.isServed_of_mem_trace`.
-/
import ProxyConsole.Proofs.Desk

namespace ProxyConsole

open Collection (Use)

/-- A collection of the server: that of the records or that of the users. -/
def Collection.IsKnown (E : Type) [Entity E] : Prop :=
  Entity.collection E = Entity.collection Record ∨ Entity.collection E = Entity.collection User

/-- Whether a call leads to a collection of the server or to something in it. -/
def Ask.Leads (a : Ask) : Prop :=
  ∃ rest, a.path = Entity.collection Record ++ rest ∨ a.path = Entity.collection User ++ rest

/-! ### Calls to collections -/

namespace Deed

def isCall : Deed → Bool
  | call _ => true
  | _ => false

/-- Deeds whose calls all lead to collections. -/
def Leads (deeds : List Deed) : Prop :=
  ∀ a, call a ∈ deeds → a.Leads

variable {deeds later : List Deed}

theorem Leads.nil : Leads [] :=
  fun _ ha => absurd ha List.not_mem_nil

theorem Leads.single {x : Deed} (h : x.isCall = false) : Leads [x] := by
  intro a ha
  rw [← List.mem_singleton.mp ha] at h
  cases h

theorem Leads.call {a : Ask} (h : a.Leads) : Leads [call a] := by
  intro b hb
  cases List.mem_singleton.mp hb
  exact h

theorem Leads.append (h₂ : Leads later) (h₁ : Leads deeds) : Leads (later ++ deeds) :=
  fun a ha => (List.mem_append.mp ha).elim (h₂ a) (h₁ a)

theorem Leads.onSuccess {r : Except Failure α} {go : α → List Deed} (h : ∀ a, Leads (go a)) :
    Leads (Deed.onSuccess r go) := by
  cases r with
  | ok a => exact h a
  | error f => exact .nil

end Deed

open Deed (Leads)

theorem Handler.leads (h : Handler) (f : Failure) : Leads (h.deeds f) := by
  cases h with
  | collector => exact .single rfl
  | banner =>
    by_cases hf : f.isPermission = true
    · rw [deeds, if_pos hf]
      exact .nil
    · rw [deeds, if_neg hf]
      exact .single rfl

/-- To hand over the failure of a call makes no other call. -/
theorem Handler.leads_call (h : Handler) {a : Ask} (ha : a.Leads) (f? : Option Failure) :
    Leads (f?.elim [] h.deeds ++ [.call a]) := by
  refine Leads.append ?_ (.call ha)
  cases f? with
  | none => exact .nil
  | some f => exact h.leads f

namespace Collection

theorem isKnown_record : IsKnown Record := .inl rfl

theorem isKnown_user : IsKnown User := .inr rfl

variable {E : Type} [Entity E]

theorem IsKnown.ask (h : IsKnown E) {a : Ask} (rest : String)
    (ha : a.path = Entity.collection E ++ rest) : a.Leads := by
  refine ⟨rest, ?_⟩
  rw [ha]
  exact h.imp (congrArg (· ++ rest)) (congrArg (· ++ rest))

theorem IsKnown.collection (h : IsKnown E) {a : Ask} (ha : a.path = Entity.collection E) :
    a.Leads :=
  h.ask "" (ha.trans String.append_empty.symm)

theorem IsKnown.itemPath (h : IsKnown E) {a : Ask} (id : String)
    (ha : a.path = Entity.itemPath E id) : a.Leads :=
  h.ask ("/" ++ id) (ha.trans String.append_assoc)

/-- Every use of a collection calls there and nowhere else. -/
theorem leads_use (hE : IsKnown E) (c : Setup) (h : Handler) (s : Session) (u : Use E) :
    Leads (u.deeds c h s) := by
  refine h.leads_call ?_ _
  cases u with
  | get id => exact hE.itemPath id rfl
  | query filter => exact hE.collection rfl
  | create draft => exact hE.collection rfl
  | update d => exact hE.itemPath _ rfl
  | updateWith change e => exact hE.itemPath _ rfl
  | remove e => exact hE.itemPath _ rfl
  | removeFrom kept id => exact hE.itemPath id rfl

theorem leads_password (c : Setup) (h : Handler) (id password : String) (s : Session) :
    Leads (passwordDeeds c h id password s) :=
  h.leads_call (isKnown_user.itemPath id rfl) _

end Collection

open Collection (leads_use isKnown_record isKnown_user)

namespace RecordScreen

theorem leads_load (c : Setup) (id : String) (s : Session) : Leads (loadDeeds c id s) :=
  Leads.append (.onSuccess fun _ => leads_use isKnown_user c .banner _ (.query []))
    (leads_use isKnown_record c .banner s (.get id))

theorem leads_act (c : Setup) (p : RecordScreen) (s : Session) (a : Act) :
    Leads (p.deeds c s a) := by
  cases a with
  | delete =>
    exact Leads.append (.onSuccess fun _ => .single rfl)
      (leads_use isKnown_record c .banner s (.remove p.record))
  | _ => exact leads_use isKnown_record c .banner s (.updateWith _ p.record)

end RecordScreen

namespace UserScreen

theorem leads_load (c : Setup) (id : String) (s : Session) : Leads (loadDeeds c id s) :=
  Leads.append (.onSuccess fun _ => leads_use isKnown_record c .banner _ (.query []))
    (leads_use isKnown_user c .banner s (.get id))

theorem leads_act (c : Setup) (p : UserScreen) (s : Session) (a : Act) :
    Leads (p.deeds c s a) := by
  cases a with
  | fill password confirmation => exact .nil
  | submitPassword =>
    by_cases hm : p.password ≠ p.confirmation
    · rw [deeds, if_pos hm]
      exact .nil
    · rw [deeds, if_neg hm]
      exact .call (isKnown_user.itemPath p.user.id rfl)
  | delete =>
    exact Leads.append (.onSuccess fun _ => .single rfl)
      (leads_use isKnown_user c .banner s (.remove p.user))

end UserScreen

namespace Console

theorem leads_within {target : Route} {go : Session → List Deed} {c : Setup}
    (h : ∀ s, Leads (go s)) (s : Session) : Leads (withinDeeds c target go s) :=
  Leads.append (.onSuccess fun _ => h _) (.single rfl)

theorem leads_onward [Entity E] (hE : Collection.IsKnown E) {c : Setup} (place : E → Route)
    (draft : Entity.Draft E) (s : Session) : Leads (onwardDeeds c place draft s) :=
  Leads.append (.onSuccess fun _ => .single rfl) (leads_use hE c .banner s (.create draft))

end Console

namespace Desk

variable {c : Setup}

/-- Whatever is done but a check, calls lead to collections. -/
theorem leads_deeds {a : Act} (ha : a ≠ .check) (d : Desk) : Leads (d.deeds c a) := by
  cases a with
  | login email password =>
    exact Leads.append (.onSuccess fun _ => .single rfl) (.single rfl)
  | logout => exact .single rfl
  | check => exact absurd rfl ha
  | navigate target => exact .single rfl
  | records =>
    exact Console.leads_within (fun s => leads_use isKnown_record c .banner s (.query [])) _
  | users => exact Console.leads_within (fun s => leads_use isKnown_user c .banner s (.query [])) _
  | openRecord id => exact Console.leads_within (RecordScreen.leads_load c id) _
  | openUser id => exact Console.leads_within (UserScreen.leads_load c id) _
  | newRecord draft => exact Console.leads_within (Console.leads_onward isKnown_record _ draft) _
  | newUser draft => exact Console.leads_within (Console.leads_onward isKnown_user _ draft) _
  | onRecord n a =>
    simp only [deeds]
    cases d.records[n]? with
    | some p => exact p.leads_act c d.session a
    | none => exact .nil
  | onUser n a =>
    simp only [deeds]
    cases d.users[n]? with
    | some p => exact p.leads_act c d.session a
    | none => exact .nil
  | useRecords handler u => exact leads_use isKnown_record c handler d.session u
  | useUsers handler u => exact leads_use isKnown_user c handler d.session u
  | changePassword handler id password =>
    exact Collection.leads_password c handler id password d.session
  | handle f => exact Handler.banner.leads f
  | fail | succeed | dismiss | wait => exact .single rfl

end Desk

/-! ### Calls to the server -/

/-- Whether a path is one of those that the server serves. -/
def IsServed (path : String) : Prop :=
  "/api/".toList <+: path.toList

/-- A call that leads to a collection leads to the server. -/
theorem Ask.Leads.isServed {a : Ask} (h : a.Leads) : IsServed a.path := by
  have hrecord : "/api/".toList <+: (Entity.collection Record).toList := by decide
  have huser : "/api/".toList <+: (Entity.collection User).toList := by decide
  obtain ⟨rest, h | h⟩ := h
  · rw [IsServed, h, String.toList_append]
    exact hrecord.trans (List.prefix_append _ _)
  · rw [IsServed, h, String.toList_append]
    exact huser.trans (List.prefix_append _ _)

namespace Desk

variable {c : Setup}

theorem isServed_of_mem_deeds {d : Desk} {a : Act} {x : Ask} (h : .call x ∈ d.deeds c a) :
    IsServed x.path := by
  by_cases ha : a = .check
  · subst ha
    have hx : .call x ∈ Console.checkDeeds c d.console := h
    unfold Console.checkDeeds at hx
    split at hx
    · cases List.mem_singleton.mp hx
      show "/api/".toList <+: _
      decide
    · cases hx
  · exact (leads_deeds ha d x h).isServed

/-- **Every call of a run leads to a path that the server serves.** -/
theorem isServed_of_mem_trace {x : Ask} {acts : List Act} {d : Desk}
    (h : .call x ∈ d.trace c acts) : IsServed x.path := by
  induction acts generalizing d with
  | nil => cases h
  | cons a acts ih =>
    rw [trace, List.mem_append] at h
    exact h.elim ih isServed_of_mem_deeds

end Desk
end ProxyConsole
