/-
# What a call and a login do to a session

Sending a request touches nothing of a session but its clock, what is shown, and
the server. What a call does beyond that is decided by the status of its answer:
a denial ends the session, and nothing else does. A login that succeeds leaves a
good token in the slot, and one that fails leaves there what was there.

Key definitions: `Session.Keeps`, `Session.answer?`, `Session.sent`, `Session.Outcome`,
`Session.isAccepted`.
Key theorems: `Session.ask_outcome`, `Session.fetch_eq_ok`, `Session.tell_eq_ok`,
`Session.login_cases`, `Session.current_of_load`.
-/
import ProxyConsole.Session.Ask
import ProxyConsole.Session.Login
import ProxyConsole.Proofs.Slot

namespace ProxyConsole

theorem toOption_eq_some {r : Except ε α} {a : α} : r.toOption = some a ↔ r = .ok a := by
  cases r <;> simp [Except.toOption]

namespace Token

/-- The text of a token is read as that token. -/
theorem read_text {s : String} {t : Token} (h : read s = .ok t) : read t.text = .ok t := by
  rw [text_of_read h, read_trimmed, h]

theorem trimmed_text {s : String} {t : Token} (h : read s = .ok t) :
    Text.trimmed t.text = t.text := by
  rw [text_of_read h, Text.trimmed, Text.trimmed, String.toList_ofList, Text.trim_trim]

theorem text_ne_empty {s : String} {t : Token} (h : read s = .ok t) : t.text ≠ "" := by
  intro he
  have hr := read_text h
  rw [he] at hr
  cases hr

end Token

namespace Session

/-- Of a session, only the clock, what is shown and the server have gone on. -/
structure Keeps (s t : Session) : Prop where
  slot : t.slot = s.slot
  clears : t.clears = s.clears
  route : t.route = s.route
  redirects : t.redirects = s.redirects
  collected : t.collected = s.collected

theorem Keeps.refl (s : Session) : s.Keeps s := ⟨rfl, rfl, rfl, rfl, rfl⟩

theorem keeps_exchange (c : Setup) (call : Call) (s : Session) :
    s.Keeps (s.exchange c call).2 := by
  unfold exchange
  dsimp only
  split <;> exact ⟨rfl, rfl, rfl, rfl, rfl⟩

theorem keeps_send (c : Setup) (r : Request) (s : Session) : s.Keeps (s.send c r).2 := by
  unfold send
  split
  · exact Keeps.refl s
  · next call _ =>
    have h := keeps_exchange c call s
    split
    · next he => rw [he] at h; exact h
    · next he => rw [he] at h; exact h

/-- A request that no answer comes to fails without a status. -/
theorem send_error {c : Setup} {r : Request} {s : Session} {f : Failure}
    (h : (s.send c r).1 = .error f) : ∃ cause, f = .unanswered cause := by
  unfold send at h
  split at h
  · exact ⟨_, (Except.error.inj h).symm⟩
  · split at h
    · cases h
    · exact ⟨_, (Except.error.inj h).symm⟩

/-! ### Calls -/

/-- The answer that comes to a call, if any. -/
def answer? (c : Setup) (a : Ask) (s : Session) : Option Answer :=
  (s.send c (s.request c a)).1.toOption

/-- Whether a call is denied. -/
def isDenied (c : Setup) (a : Ask) (s : Session) : Bool :=
  (s.answer? c a).any fun r => r.status == unauthorized

/-- A session after a call was sent and before its answer is looked at. -/
def sent (c : Setup) (a : Ask) (s : Session) : Session :=
  (s.send c (s.request c a)).2

theorem keeps_sent (c : Setup) (a : Ask) (s : Session) : s.Keeps (s.sent c a) :=
  keeps_send c (s.request c a) s

theorem send_of_answer {c : Setup} {a : Ask} {s : Session} {r : Answer}
    (h : s.answer? c a = some r) : s.send c (s.request c a) = (.ok r, s.sent c a) := by
  unfold answer? at h
  unfold sent
  generalize s.send c (s.request c a) = x at h ⊢
  obtain ⟨f | r', t⟩ := x
  · simp [Except.toOption] at h
  · simp only [Except.toOption, Option.some.injEq] at h
    rw [h]

theorem send_of_no_answer {c : Setup} {a : Ask} {s : Session} (h : s.answer? c a = none) :
    ∃ cause, s.send c (s.request c a) = (.error (.unanswered cause), s.sent c a) := by
  have he {f : Failure} := send_error (c := c) (r := s.request c a) (s := s) (f := f)
  unfold answer? at h
  unfold sent
  generalize s.send c (s.request c a) = x at h he ⊢
  obtain ⟨f | r', t⟩ := x
  · obtain ⟨cause, rfl⟩ := he rfl
    exact ⟨cause, rfl⟩
  · simp [Except.toOption] at h

theorem status_ne_of_isSuccess {r : Answer} (h : r.isSuccess = true) : r.status ≠ unauthorized := by
  simp only [Answer.isSuccess, Bool.and_eq_true, decide_eq_true_eq] at h
  unfold unauthorized
  omega

/-- What can come of a call: it fails for want of an answer; it is denied, which ends the
session; it succeeds; or it fails by its answer. Only a denial changes more than was
changed by sending the call. -/
inductive Outcome (c : Setup) (a : Ask) (s : Session) : Except Failure Answer × Session → Prop where
  | unanswered (cause : Cause) : s.answer? c a = none →
      Outcome c a s (.error (.unanswered cause), s.sent c a)
  | denied (r : Answer) : s.answer? c a = some r → r.status = unauthorized →
      Outcome c a s (.error .permission, (s.sent c a).expel)
  | success (r : Answer) : s.answer? c a = some r → r.isSuccess = true →
      Outcome c a s (.ok r, s.sent c a)
  | failure (r : Answer) : s.answer? c a = some r → r.status ≠ unauthorized →
      r.isSuccess = false → Outcome c a s (.error (.ofAnswer r.status r.json), s.sent c a)

theorem ask_outcome (c : Setup) (a : Ask) (s : Session) : Outcome c a s (s.ask c a) := by
  unfold ask
  cases ha : s.answer? c a with
  | none =>
    obtain ⟨cause, hs⟩ := send_of_no_answer ha
    rw [hs]
    exact .unanswered cause ha
  | some r =>
    rw [send_of_answer ha]
    dsimp only [judge, escalate]
    by_cases hd : r.status = unauthorized
    · rw [if_pos hd]
      exact .denied r ha hd
    · rw [if_neg hd]
      cases hr : r.isSuccess with
      | true => exact .success r ha hr
      | false => exact .failure r ha hd hr

/-- A denial empties the slot, and nothing else does. -/
theorem load_ask (c : Setup) (a : Ask) (s : Session) :
    (s.ask c a).2.slot.load = if s.isDenied c a then none else s.slot.load := by
  have hk := (keeps_sent c a s).slot
  have ho := ask_outcome c a s
  unfold isDenied
  generalize s.ask c a = x at ho ⊢
  cases ho with
  | unanswered cause h =>
    rw [h, hk]
    rfl
  | denied r h hd =>
    rw [h, Option.any_some, if_pos (by simpa using hd)]
    exact Slot.load_clear (s.sent c a).slot
  | success r h hr =>
    have hd : r.status ≠ unauthorized := status_ne_of_isSuccess hr
    rw [h, hk, Option.any_some, if_neg (by simpa using hd)]
  | failure r h hd hr => rw [h, hk, Option.any_some, if_neg (by simpa using hd)]

/-- Looking at an answer does nothing to the server. -/
theorem server_ask (c : Setup) (a : Ask) (s : Session) :
    (s.ask c a).2.server = (s.sent c a).server := by
  have ho := ask_outcome c a s
  generalize s.ask c a = x at ho ⊢
  cases ho with
  | unanswered cause => rfl
  | denied => rfl
  | success => rfl
  | failure => rfl

/-! ### Fetches -/

end Session

theorem Answer.decode_eq_ok {read : Outline → Except Mistake α} {a : Answer} {v : α} :
    a.decode read = .ok v ↔ a.whole = true ∧ Decode.document read a.body = .ok v := by
  unfold decode
  cases a.whole with
  | false => simp
  | true =>
    simp only [↓reduceIte, true_and]
    cases Decode.document read a.body with
    | error m =>
      constructor
      · rintro ⟨⟩
      · rintro ⟨⟩
    | ok w =>
      constructor
      · rintro ⟨⟩
        rfl
      · rintro ⟨⟩
        rfl

/-- A success that does not hold what was asked for was cut off or is not of its form. -/
theorem Answer.decode_eq_error {read : Outline → Except Mistake α} {a : Answer} {f : Failure}
    (h : a.decode read = .error f) :
    (a.whole = true ∧ ∃ m, Decode.document read a.body = .error m ∧
      f = .transport (some a.status) .null (.badBody m a.body)) ∨
    (a.whole = false ∧ f = .unanswered .cutOff) := by
  unfold decode at h
  cases hw : a.whole with
  | false =>
    rw [hw] at h
    cases h
    exact .inr ⟨rfl, rfl⟩
  | true =>
    rw [hw] at h
    cases hd : Decode.document read a.body with
    | ok v =>
      rw [hd] at h
      cases h
    | error m =>
      rw [hd] at h
      cases h
      exact .inl ⟨rfl, m, rfl, rfl⟩

namespace Session

/-- A fetch brings a value when its answer is a success, arrives whole and holds the
value, and at no other time. -/
theorem fetch_eq_ok {c : Setup} {read : Outline → Except Mistake α} {a : Ask} {s : Session}
    {v : α} :
    (s.fetch c read a).1 = .ok v ↔ ∃ r, s.answer? c a = some r ∧ r.isSuccess = true ∧
      r.whole = true ∧ Decode.document read r.body = .ok v := by
  have ho := ask_outcome c a s
  unfold fetch
  generalize s.ask c a = x at ho ⊢
  cases ho with
  | unanswered cause h => simp [h, Except.bind]
  | denied r h hd =>
    have hr : r.isSuccess ≠ true := fun hr => status_ne_of_isSuccess hr hd
    simp [h, hr, Except.bind]
  | success r h hr => simp [h, hr, Except.bind, Answer.decode_eq_ok]
  | failure r h hd hr => simp [h, hr, Except.bind]

/-- A call whose answer is not looked into succeeds when its answer is a success. -/
theorem tell_eq_ok {c : Setup} {a : Ask} {s : Session} :
    (s.tell c a).1 = .ok () ↔ ∃ r, s.answer? c a = some r ∧ r.isSuccess = true := by
  have ho := ask_outcome c a s
  unfold tell
  generalize s.ask c a = x at ho ⊢
  cases ho with
  | unanswered cause h => simp [h, Except.map]
  | denied r h hd =>
    have hr : r.isSuccess ≠ true := fun hr => status_ne_of_isSuccess hr hd
    simp [h, hr, Except.map]
  | success r h hr => simp [h, hr, Except.map]
  | failure r h hd hr => simp [h, hr, Except.map]

/-- Whether a call is answered with a success. -/
def isAccepted (c : Setup) (a : Ask) (s : Session) : Bool :=
  (s.answer? c a).any Answer.isSuccess

theorem tell_eq_ok_iff_isAccepted {c : Setup} {a : Ask} {s : Session} :
    (s.tell c a).1 = .ok () ↔ s.isAccepted c a = true := by
  rw [tell_eq_ok, isAccepted, Option.any_eq_true]

/-! ### Logins -/

theorem slot_keep (t : Token) (s : Session) : (s.keep t).2.slot = (s.slot.save t.text).2 := by
  unfold keep
  dsimp only
  split <;> rfl

/-- A token is kept when the slot can be written. -/
theorem keep_eq_ok {t u : Token} {s : Session} :
    (s.keep t).1 = .ok u ↔ u = t ∧ s.slot.IsWritable := by
  have hs : (s.slot.save t.text).1 = .ok () ↔ s.slot.IsWritable := Slot.save_eq_ok
  rw [← hs]
  unfold keep
  cases hs : (s.slot.save t.text).1 with
  | error e => simp [hs]
  | ok _ => simp [hs, eq_comm]

theorem keep_eq_error {t : Token} {s : Session} {f : Failure} (h : (s.keep t).1 = .error f) :
    ∃ e, (s.slot.save t.text).1 = .error e := by
  unfold keep at h
  dsimp only at h
  split at h
  · next e hs => exact ⟨e, hs⟩
  · cases h

theorem expiredAt_eq_false {t : Token} {now : Int64} :
    t.expiredAt now = false ↔ ∀ e, t.claims.exp = some e → now < e := by
  unfold Token.expiredAt
  cases t.claims.exp with
  | none => simp
  | some e => simp

/-- The token of an answer is the one that a whole success holds, and it is good. -/
theorem tokenOf_eq_ok {c : Setup} {a : Answer} {t : Token} :
    tokenOf c a = .ok t ↔ a.isSuccess = true ∧ a.whole = true ∧
      (∃ text, Decode.document TokenAnswer.read a.body = .ok ⟨text⟩ ∧ Token.read text = .ok t) ∧
      t.expiredAt c.today = false := by
  constructor
  · intro h
    unfold tokenOf at h
    split at h
    · next hs =>
      split at h
      · cases h
      · next v hd =>
        obtain ⟨hw, hb⟩ := Answer.decode_eq_ok.mp hd
        split at h
        · cases h
        · next u hu =>
          split at h
          · cases h
          · next he =>
            cases h
            exact ⟨hs, hw, ⟨v.token, hb, hu⟩, by simpa using he⟩
    · cases h
  · rintro ⟨hs, hw, ⟨text, hb, hr⟩, hx⟩
    simp [tokenOf, hs, Answer.decode_eq_ok.mpr ⟨hw, hb⟩, hr, hx]

/-- What a slot holds after a login: the token, or what it held when the login
failed. -/
theorem login_cases (c : Setup) (credentials : Credentials) (s : Session) :
    (∃ t, (s.login c credentials).1 = .ok t ∧ (∃ text, Token.read text = .ok t) ∧
      t.expiredAt c.today = false ∧ (s.login c credentials).2.slot.load = some t.text) ∨
    (∃ f, (s.login c credentials).1 = .error f ∧
      (s.login c credentials).2.slot.load = s.slot.load) := by
  have hk := keeps_send c (loginRequest c credentials) s
  unfold login
  split
  · next f t hs =>
    rw [hs] at hk
    exact Or.inr ⟨f, rfl, by rw [hk.slot]⟩
  · next a u hs =>
    rw [hs] at hk
    split
    · next d _ => exact Or.inr ⟨_, rfl, by rw [hk.slot]⟩
    · next t ht =>
      obtain ⟨-, -, ⟨text, -, hr⟩, hx⟩ := tokenOf_eq_ok.mp ht
      cases hkeep : (u.keep t).1 with
      | ok v =>
        obtain ⟨rfl, hsave⟩ := keep_eq_ok.mp hkeep
        refine Or.inl ⟨v, rfl, ⟨text, hr⟩, hx, ?_⟩
        rw [slot_keep, Slot.load_save (Token.trimmed_text hr) (Token.text_ne_empty hr)
          (Slot.save_eq_ok.mpr hsave)]
      | error f =>
        obtain ⟨e, hsave⟩ := keep_eq_error hkeep
        refine Or.inr ⟨f, rfl, ?_⟩
        rw [slot_keep, Slot.load_save_error hsave, hk.slot]

theorem current_eq_of_load {c : Setup} {s t : Session} (h : t.slot.load = s.slot.load) :
    t.current c = s.current c := by
  unfold current
  rw [h]

theorem current_of_load {c : Setup} {s : Session} {text : String} {t : Token}
    (hl : s.slot.load = some t.text) (hr : Token.read text = .ok t)
    (hx : t.expiredAt c.today = false) : s.current c = some t := by
  unfold current
  rw [hl]
  simp [Token.read?, Token.read_text hr, Except.toOption, Option.filter, hx]

end Session
end ProxyConsole
