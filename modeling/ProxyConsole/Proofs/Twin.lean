/-
# Sessions that cannot be told apart

A slot in memory keeps a text as it is, and a slot in a file gives it back without
blank characters at its ends, or not at all when nothing else is in it. Both are read
as the same token, if any. And of two answers whose texts are taken for one, as those
are that differ in passwords alone, the same value is read, or the same mistake is met.
So two sessions that differ in nothing but such slots, and servers with such answers,
send the same requests, come to the same results and go on to differ in nothing else,
in whatever is done with them. Only the failure of a reply in which there is a mistake
is not quite the same: it holds the text, and so the place of the mistake.

Key definitions: `Slot.Twin`, `Veil`, `Failure.Twin`, `Result.Like`, `Answer.Twin`,
`Server.Twin`, `Session.Twin`, `Session.Alike`, `Session.Answered`.
Key theorems: `Slot.Twin.token`, `Slot.Twin.save`, `Slot.Twin.clear`, `Failure.Twin.messageAt`,
`Answer.Twin.decode`, `Server.Twin.take`, `Session.alike_fetch`, `Session.alike_login`,
`Session.alike_navigate`.
-/
import ProxyConsole.Proofs.Cell
import ProxyConsole.Proofs.Deed
import ProxyConsole.Proofs.Unread

namespace ProxyConsole

/-! ### Slots -/

namespace Token

/-- A blank text is no token. -/
theorem read?_of_isBlankText {s : String} (h : Text.isBlankText s = true) : read? s = none := by
  have ht : Text.trim s.toList = [] := Text.trim_eq_nil.mpr (by simpa [Text.isBlankText] using h)
  have hseg : claimsSegment? (Text.trim s.toList) = none := by
    rw [ht]
    rfl
  rw [read?, read, hseg]
  rfl

/-- A text is read as the token that it is without blank characters at its ends. -/
theorem read?_content (s : String) : (Text.content? s).bind read? = read? s := by
  unfold Text.content?
  split
  · next h =>
    rw [read?_of_isBlankText h]
    rfl
  · rw [Option.bind_some, read?, read?, read_trimmed]

end Token

namespace FileSlot

theorem isWritable_of_isOpen {f : FileSlot} (h : f.disk.IsOpen f.path) : f.IsWritable := by
  have ht : f.disk.tryFolders f.folder = (.ok (), f.disk) := Disk.tryFolders_of_isOpen h
  rw [IsWritable, ht]
  exact h

/-- A slot can be written again after something was saved in it. -/
theorem IsWritable.save {f : FileSlot} (h : f.IsWritable) (text : String) :
    (f.save text).1 = .ok () ∧ (f.save text).2.IsWritable := by
  obtain ⟨d, hw, hs⟩ | ⟨ho, -⟩ := save_cases text f
  · rw [hs]
    refine ⟨rfl, isWritable_of_isOpen ?_⟩
    exact Disk.isOpen_of_read (Disk.read_of_write hw)
  · exact absurd h ho

/-- A slot can be written after it was cleared. -/
theorem IsWritable.clear {f : FileSlot} (h : f.IsWritable) : f.clear.IsWritable := by
  obtain ⟨d, hd, hc⟩ | ⟨-, hc⟩ | ⟨-, -, hc⟩ := clear_cases f <;> rw [hc]
  · refine isWritable_of_isOpen ?_
    exact Disk.isOpen_of_remove hd
  · exact h
  · exact h

end FileSlot

namespace Slot

/-- One slot, or a slot in memory and one in a file that can be written and holds the same
text but for blank characters. -/
inductive Twin : Slot → Slot → Prop where
  | same (s : Slot) : Twin s s
  | mk {text : Option String} {f : FileSlot} (held : f.load = text.bind Text.content?)
      (writable : f.IsWritable) : Twin (memory text) (file f)

variable {s g : Slot}

/-- Both slots are read as the same token. -/
theorem Twin.token (h : s.Twin g) : g.load.bind Token.read? = s.load.bind Token.read? := by
  cases h with
  | same => rfl
  | @mk text f held writable =>
    show f.load.bind Token.read? = text.bind Token.read?
    rw [held]
    cases text with
    | none => rfl
    | some t => exact Token.read?_content t

/-- A token is kept in both slots. -/
theorem Twin.save (h : s.Twin g) (token : String) :
    (s.save token).1 = (g.save token).1 ∧ (s.save token).2.Twin (g.save token).2 := by
  cases h with
  | same => exact ⟨rfl, .same _⟩
  | @mk text f held writable =>
    obtain ⟨hs, hw⟩ := writable.save token
    have hm : (memory text).save token = (.ok (), memory (some token)) := rfl
    rw [hm, save_file]
    refine ⟨hs.symm, .mk ?_ hw⟩
    rw [FileSlot.load_save hs, FileSlot.tokenOf_utf8, Option.bind_some]

theorem Twin.clear (h : s.Twin g) : s.clear.Twin g.clear := by
  cases h with
  | same => exact .same _
  | mk held writable => exact .mk (FileSlot.load_clear _) writable.clear

end Slot

/-! ### Texts and failures -/

/-- A veil over the texts that a server sends: which texts are taken for one through it.
Readers to whom passwords make no difference read the same of both, as a value or as a
mistake. -/
structure Veil where
  Hides : List UInt8 → List UInt8 → Prop
  document {α : Type} {read : Outline → Except Mistake α} (hr : Decode.IsBlind read)
    {bs bs' : List UInt8} (h : Hides bs bs') :
    Decode.document read bs = Decode.document read bs'

namespace Veil

/-- The veil that hides nothing. -/
def clear : Veil := ⟨fun _ _ => False, fun _ _ _ h => h.elim⟩

/-- The veil that hides the passwords of users. -/
def passwords : Veil := ⟨SameText, fun hr _ _ h => hr.document h⟩

end Veil

variable {veil : Veil}

namespace Failure

/-- One failure, or two of the same mistake, which was met in two texts that are taken for
one. The mistake may have been met at another place in the other text. -/
inductive Twin (veil : Veil) : Failure → Failure → Prop where
  | same (f : Failure) : Twin veil f f
  | unread (status : Nat) (m : Mistake) {body body' : List UInt8} (h : veil.Hides body body') :
      Twin veil (.transport (some status) .null (.badBody m body))
        (.transport (some status) .null (.badBody m body'))

variable {f g : Failure}

theorem Twin.isPermission (h : f.Twin veil g) : f.isPermission = g.isPermission := by
  cases h with
  | same => rfl
  | unread => rfl

/-- The user interface is told the same of both. -/
theorem Twin.payloadAt (h : f.Twin veil g) (spot : Option Spot) :
    f.payloadAt spot = g.payloadAt spot := by
  cases h with
  | same => rfl
  | unread => rfl

/-- Both say the same, but for the place that is named. -/
theorem Twin.messageAt (h : f.Twin veil g) (spot : Option Spot) :
    f.messageAt spot = g.messageAt spot := by
  cases h with
  | same => rfl
  | unread => rfl

/-- Where nothing is hidden there is one failure. -/
theorem Twin.eq (h : f.Twin .clear g) : f = g := by
  cases h with
  | same => rfl
  | unread _ _ h => exact h.elim

end Failure

/-! ### Results -/

/-- One result both times, or failures that are twins. -/
inductive Result.Like (veil : Veil) : Except Failure α → Except Failure α → Prop where
  | ok (a : α) : Like veil (.ok a) (.ok a)
  | error {f g : Failure} (h : f.Twin veil g) : Like veil (.error f) (.error g)

/-- Results that are alike, each with one thing beside it. -/
def Result.LikeWith (veil : Veil) (x y : Except Failure α × β) : Prop :=
  Result.Like veil x.1 y.1 ∧ x.2 = y.2

namespace Result

variable {x y : Except Failure α}

theorem Like.refl (veil : Veil) (x : Except Failure α) : Like veil x x := by
  cases x with
  | ok a => exact .ok a
  | error f => exact .error (.same f)

theorem Like.map (h : Like veil x y) (g : α → β) : Like veil (x.map g) (y.map g) := by
  cases h with
  | ok a => exact .ok (g a)
  | error h => exact .error h

/-- Results that are alike bring the same, if anything. -/
theorem Like.toOption (h : Like veil x y) : x.toOption = y.toOption := by
  cases h with
  | ok a => rfl
  | error h => rfl

/-- Results that are alike are one when their failures are. -/
theorem Like.eq (h : Like veil x y)
    (hf : ∀ f g, Failure.of? x = some f → f.Twin veil g → f = g) : x = y := by
  cases h with
  | ok a => rfl
  | error h => rw [hf _ _ rfl h]

theorem LikeWith.eq {x y : Except Failure α × β} (h : LikeWith veil x y)
    (hf : ∀ f g, Failure.of? x.1 = some f → f.Twin veil g → f = g) : x = y :=
  Prod.ext (h.1.eq hf) h.2

end Result

/-! ### Answers -/

namespace Answer

/-- One answer, or two that tell of a success and whose texts are taken for one. -/
inductive Twin (veil : Veil) : Answer → Answer → Prop where
  | same (a : Answer) : Twin veil a a
  | veiled {status : Nat} {body body' : List UInt8} {whole : Bool}
      (success : 200 ≤ status ∧ status ≤ 299) (text : veil.Hides body body') :
      Twin veil ⟨status, body, whole⟩ ⟨status, body', whole⟩

variable {a b : Answer}

theorem Twin.status (h : a.Twin veil b) : a.status = b.status := by
  cases h with
  | same => rfl
  | veiled => rfl

theorem Twin.isSuccess (h : a.Twin veil b) : a.isSuccess = b.isSuccess := by
  rw [Answer.isSuccess, Answer.isSuccess, h.status]

/-- Answers that tell of no success are one. -/
theorem Twin.eq (h : a.Twin veil b) (ha : a.isSuccess = false) : a = b := by
  cases h with
  | same => rfl
  | veiled success => simp [Answer.isSuccess, success] at ha

theorem Twin.delivered (h : a.Twin veil b) : a.delivered.Twin veil b.delivered := by
  cases h with
  | same => exact .same _
  | veiled success text =>
    unfold Answer.delivered
    dsimp only
    split
    · exact .veiled success text
    · exact .same _

/-- Both answers are read as the same, or with the same mistake. -/
theorem Twin.decode {α : Type} (h : a.Twin veil b) {read : Outline → Except Mistake α}
    (hr : Decode.IsBlind read) :
    Result.Like veil (a.decode read) (b.decode read) := by
  cases h with
  | same => exact .refl veil _
  | @veiled status body body' whole success text =>
    unfold Answer.decode
    dsimp only
    rw [← veil.document hr text]
    cases whole with
    | false => exact .error (.same _)
    | true =>
      cases Decode.document read body with
      | ok v => exact .ok v
      | error m => exact .error (.unread status m text)

/-- Both answers hold the same token. -/
theorem Twin.tokenOf (h : a.Twin veil b) (c : Setup) :
    Session.tokenOf c a = Session.tokenOf c b := by
  have hd := h.decode TokenAnswer.isBlind_read
  unfold Session.tokenOf
  rw [← h.isSuccess]
  split
  · generalize a.decode TokenAnswer.read = x at hd ⊢
    generalize b.decode TokenAnswer.read = y at hd ⊢
    cases hd with
    | ok t => rfl
    | error h => rfl
  · next hs => rw [h.eq (Bool.eq_false_iff.mpr hs)]

end Answer

/-- Two replies, of which the answers are twins. -/
inductive Reply.Twin (veil : Veil) : Reply → Reply → Prop where
  | answer {a b : Answer} (h : a.Twin veil b) : Twin veil (.answer a) (.answer b)
  | drop : Twin veil .drop .drop
  | hang : Twin veil .hang .hang

namespace Server

/-- Two servers that differ in their answers alone, which are twins one by one. -/
inductive Twin (veil : Veil) : Server → Server → Prop where
  | mk {replies replies' : List Reply} (listening : Bool) (arrivals : List Arrival)
      (h : List.Forall₂ (Reply.Twin veil) replies replies') :
      Twin veil ⟨listening, replies, arrivals⟩ ⟨listening, replies', arrivals⟩

variable {v w : Server}

theorem Twin.refl (v : Server) : v.Twin veil v := by
  refine .mk v.listening v.arrivals (List.forall₂_same.mpr fun r _ => ?_)
  cases r with
  | answer a => exact .answer (.same a)
  | drop => exact .drop
  | hang => exact .hang

theorem Twin.arrivals (h : v.Twin veil w) : w.arrivals = v.arrivals := by
  cases h
  rfl

/-- The next replies of two scripts, and what is left of the scripts. -/
theorem twin_headD {rs rs' : List Reply} (h : List.Forall₂ (Reply.Twin veil) rs rs') :
    (rs.headD lastReply).Twin veil (rs'.headD lastReply) ∧
      List.Forall₂ (Reply.Twin veil) (rs.drop 1) (rs'.drop 1) := by
  cases h with
  | nil => exact ⟨.answer (.same _), .nil⟩
  | cons hr hrs => exact ⟨hr, hrs⟩

/-- A call is taken by both servers, which reply alike. -/
theorem Twin.take (h : v.Twin veil w) (call : Call) :
    (v.take call).1.Twin veil (w.take call).1 ∧ (v.take call).2.Twin veil (w.take call).2 := by
  obtain ⟨listening, arrivals, h⟩ := h
  unfold Server.take
  cases listening with
  | false => exact ⟨.drop, .mk false arrivals h⟩
  | true =>
    simp only [↓reduceIte]
    obtain ⟨hhead, htail⟩ := twin_headD h
    refine ⟨?_, .mk true _ htail⟩
    generalize List.headD _ lastReply = reply at hhead ⊢
    generalize List.headD _ lastReply = reply' at hhead ⊢
    cases hhead with
    | answer ha =>
      dsimp only
      split
      · exact .drop
      · exact .answer ha.delivered
    | drop => exact .drop
    | hang => exact .hang

end Server

/-! ### Sessions -/

namespace Session

/-- Two sessions that differ in their slots, in their servers and in the failures that were
collected, all of which are twins. -/
inductive Twin (veil : Veil) : Session → Session → Prop where
  | intro {s : Session} {g : Slot} {v : Server} {fs : List Failure} (slot : s.slot.Twin g)
      (server : s.server.Twin veil v)
      (collected : List.Forall₂ (Failure.Twin veil) s.collected fs) :
      Twin veil s { s with slot := g, server := v, collected := fs }

/-- Two sessions that begin, with slots and servers that are twins. -/
theorem Twin.start {slot g : Slot} {v w : Server} (hslot : slot.Twin g) (hserver : v.Twin veil w) :
    (start slot v).Twin veil (start g w) :=
  .intro hslot hserver .nil

/-- Results that are related, of sessions that are twins. -/
inductive Alike (veil : Veil) (R : α → α → Prop) : α × Session → α × Session → Prop where
  | mk {a b : α} {s t : Session} (result : R a b) (twin : s.Twin veil t) :
      Alike veil R (a, s) (b, t)

theorem Alike.fst {R : α → α → Prop} {x y : α × Session} (h : Alike veil R x y) :
    R x.1 y.1 := by
  cases h
  assumption

theorem Alike.snd {R : α → α → Prop} {x y : α × Session} (h : Alike veil R x y) :
    x.2.Twin veil y.2 := by
  cases h
  assumption

/-- A call that is answered in both sessions, by twins, or comes to one failure. -/
inductive Answered (veil : Veil) :
    Except Failure Answer × Session → Except Failure Answer × Session → Prop where
  | ok {a b : Answer} {s t : Session} (answer : a.Twin veil b) (twin : s.Twin veil t) :
      Answered veil (.ok a, s) (.ok b, t)
  | error (f : Failure) {s t : Session} (twin : s.Twin veil t) :
      Answered veil (.error f, s) (.error f, t)

/-- The results, and the sessions that they came with. -/
theorem Alike.exists_eq {R : α → α → Prop} {x y : α × Session} (h : Alike veil R x y) :
    ∃ a b s t, x = (a, s) ∧ y = (b, t) ∧ R a b ∧ s.Twin veil t := by
  cases h with
  | mk result twin => exact ⟨_, _, _, _, rfl, rfl, result, twin⟩

/-- One result, and the sessions that it came with. -/
theorem Alike.exists_eq_same {x y : α × Session} (h : Alike veil Eq x y) :
    ∃ a s t, x = (a, s) ∧ y = (a, t) ∧ s.Twin veil t := by
  cases h with
  | mk result twin => exact ⟨_, _, _, rfl, by rw [result], twin⟩

theorem Alike.map {R : α → α → Prop} {S : β → β → Prop} {f : α → β}
    (hf : ∀ a b, R a b → S (f a) (f b)) {x y : α × Session} (h : Alike veil R x y) :
    Alike veil S (f x.1, x.2) (f y.1, y.2) := by
  cases h with
  | mk result twin => exact .mk (hf _ _ result) twin

/-- One result is one result, whatever is made of it. -/
theorem Alike.mapSame (f : α → β) {x y : α × Session} (h : Alike veil Eq x y) :
    Alike veil Eq (f x.1, x.2) (f y.1, y.2) := by
  cases h with
  | mk result twin => exact .mk (congrArg f result) twin

/-- What goes on alike from every success goes on alike. -/
theorem Alike.andThen {x y : Except Failure α × Session}
    {go : α → Session → Except Failure β × Session} (h : Alike veil (Result.Like veil) x y)
    (hgo : ∀ a {s t : Session}, s.Twin veil t → Alike veil (Result.Like veil) (go a s) (go a t)) :
    Alike veil (Result.Like veil) (Session.andThen x go) (Session.andThen y go) := by
  cases h with
  | mk result twin =>
    cases result with
    | error h => exact .mk (.error h) twin
    | ok a => exact hgo a twin

variable {c : Setup} {s t : Session} (h : s.Twin veil t)

include h

theorem Twin.current : t.current c = s.current c := by
  cases h with
  | intro slot =>
    unfold Session.current
    rw [slot.token]

theorem Twin.isLive : t.isLive c = s.isLive c := by
  unfold Session.isLive
  rw [h.current]

/-- The same has arrived at both servers. -/
theorem Twin.arrivals : t.server.arrivals = s.server.arrivals := by
  cases h with
  | intro slot server => exact server.arrivals

theorem Twin.collected : List.Forall₂ (Failure.Twin veil) s.collected t.collected := by
  cases h
  assumption

theorem Twin.logout : s.logout.Twin veil t.logout := by
  cases h with
  | intro slot server collected => exact .intro slot.clear server collected

theorem Twin.redirect (r : Route) : (s.redirect r).Twin veil (t.redirect r) := by
  cases h with
  | intro slot server collected => exact .intro slot server collected

theorem Twin.expel : s.expel.Twin veil t.expel :=
  h.logout.redirect .login

theorem Twin.wait (ms : Nat) : (s.wait ms).Twin veil (t.wait ms) := by
  cases h with
  | intro slot server collected => exact .intro slot server collected

theorem Twin.succeed (text : String) : (s.succeed c text).Twin veil (t.succeed c text) := by
  cases h with
  | intro slot server collected => exact .intro slot server collected

theorem Twin.dismiss : s.dismiss.Twin veil t.dismiss := by
  cases h with
  | intro slot server collected => exact .intro slot server collected

theorem Twin.fail (p : Payload) : (s.fail p).Twin veil (t.fail p) := by
  unfold Session.fail
  split
  · exact h.expel
  · cases h with
    | intro slot server collected => exact .intro slot server collected

/-- Twin failures are handled alike: the user is told the same of both, and both are
collected. -/
theorem Twin.handle (who : Handler) {f g : Failure} (hf : f.Twin veil g) :
    (who.handle f s).Twin veil (who.handle g t) := by
  cases who with
  | banner =>
    have hp : f.payload = g.payload := hf.payloadAt none
    unfold Handler.handle
    dsimp only
    rw [← hf.isPermission, ← hp]
    split
    · exact h
    · exact h.fail f.payload
  | collector =>
    cases h with
    | intro slot server collected =>
      exact .intro slot server (List.rel_append collected (.cons hf .nil))

/-- A request is answered alike in both sessions. -/
theorem answered_send (r : Request) : Answered veil (s.send c r) (t.send c r) := by
  unfold send
  cases r.call with
  | error cause => exact .error _ h
  | ok call =>
    cases h with
    | @intro g v fs slot server collected =>
      obtain ⟨hreply, hserver⟩ := server.take call
      unfold exchange
      dsimp only
      generalize s.server.take call = x at hreply hserver ⊢
      generalize v.take call = y at hreply hserver ⊢
      obtain ⟨reply, v'⟩ := x
      obtain ⟨reply', w'⟩ := y
      cases hreply with
      | answer ha => exact .ok ha (.intro slot hserver collected)
      | drop => exact .error _ (.intro slot hserver collected)
      | hang =>
        cases c.timeout with
        | none => exact .error _ (.intro slot hserver collected)
        | some seconds =>
          have twin : Twin veil { s with server := v' }
              { s with slot := g, server := w', collected := fs } :=
            .intro slot hserver collected
          exact .error _ (twin.wait (seconds * 1000))

theorem alike_escalate (status : Nat) :
    Alike veil Eq (s.escalate status) (t.escalate status) := by
  unfold escalate
  split
  · exact .mk rfl h.expel
  · exact .mk rfl h

theorem answered_judge {a b : Answer} (hab : a.Twin veil b) :
    Answered veil (s.judge a) (t.judge b) := by
  obtain ⟨denied, s', t', hs, ht, twin⟩ := (alike_escalate h b.status).exists_eq_same
  unfold judge
  rw [hab.status, hab.isSuccess, hs, ht]
  cases denied with
  | true => exact .error _ twin
  | false =>
    dsimp only
    split
    · exact .ok hab twin
    · next hsuccess =>
      rw [hab.eq (hab.isSuccess.trans (Bool.eq_false_iff.mpr hsuccess))]
      exact .error _ twin

/-- A call is answered alike in both sessions. -/
theorem answered_ask (a : Ask) : Answered veil (s.ask c a) (t.ask c a) := by
  have hr : t.request c a = s.request c a := by
    unfold request
    rw [h.current]
  have hsend := answered_send h (c := c) (s.request c a)
  unfold ask
  rw [hr]
  generalize s.send c (s.request c a) = x at hsend ⊢
  generalize t.send c (s.request c a) = y at hsend ⊢
  cases hsend with
  | ok hab twin => exact answered_judge twin hab
  | error f twin => exact .error f twin

theorem alike_tell (a : Ask) : Alike veil (Result.Like veil) (s.tell c a) (t.tell c a) := by
  have hask := answered_ask h (c := c) a
  unfold tell
  generalize s.ask c a = x at hask ⊢
  generalize t.ask c a = y at hask ⊢
  cases hask with
  | ok _ twin => exact .mk (.ok ()) twin
  | error f twin => exact .mk (.error (.same f)) twin

/-- What is read blindly of the answer to a call is the same in both sessions, or is no value
in both. -/
theorem alike_fetch {α : Type} {read : Outline → Except Mistake α} (hr : Decode.IsBlind read)
    (a : Ask) :
    Alike veil (Result.Like veil) (s.fetch c read a) (t.fetch c read a) := by
  have hask := answered_ask h (c := c) a
  unfold fetch
  generalize s.ask c a = x at hask ⊢
  generalize t.ask c a = y at hask ⊢
  cases hask with
  | ok hab twin => exact .mk (hab.decode hr) twin
  | error f twin => exact .mk (.error (.same f)) twin

theorem alike_keep (token : Token) : Alike veil Eq (s.keep token) (t.keep token) := by
  cases h with
  | intro slot server collected =>
    obtain ⟨hs, twin⟩ := slot.save token.text
    unfold keep
    dsimp only
    rw [← hs]
    split
    · exact .mk rfl (.intro twin server collected)
    · exact .mk rfl (.intro twin server collected)

/-- A login comes to the same result in both sessions. -/
theorem alike_login (credentials : Credentials) :
    Alike veil Eq (s.login c credentials) (t.login c credentials) := by
  have hsend := answered_send h (c := c) (loginRequest c credentials)
  unfold login
  generalize s.send c (loginRequest c credentials) = x at hsend ⊢
  generalize t.send c (loginRequest c credentials) = y at hsend ⊢
  cases hsend with
  | error f twin => exact .mk rfl twin
  | ok hab twin =>
    dsimp only
    rw [hab.tokenOf c]
    split
    · exact .mk rfl twin
    · exact alike_keep twin _

/-- Both users land at the same place. -/
theorem alike_navigate (target : Route) :
    Alike veil Eq (s.navigate c target) (t.navigate c target) := by
  have hd : t.detour c target = s.detour c target := by
    unfold detour
    rw [h.isLive]
  unfold navigate
  rw [hd]
  cases h with
  | intro slot server collected =>
    split
    · exact .mk rfl (.intro slot server collected)
    · split
      · exact .mk rfl (.intro slot.clear server collected)
      · exact .mk rfl (.intro slot server collected)

end Session
end ProxyConsole
