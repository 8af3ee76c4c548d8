/-
# Which tokens can be used

Of the text of a token only the segment of the claims is looked at when a login is granted,
and the whole text is sent with every call. A call is sent when no control character but
tabs stands in its token. There is none in the segment of the claims, but there may be some
in the header and in the signature: then the login is granted and the session is live, and
no call is sent under it. Such a session goes on as it is, since a call that is not sent is
never denied.

Key definitions: `Arrival.carrying`, `Session.Holds`.
Key theorems: `Server.arrives_bearer`, `Token.isHeaderText_iff`, `Session.login_holds`.
-/
import Mathlib.Data.List.TakeWhile
import ProxyConsole.Proofs.Login
import ProxyConsole.Proofs.Payload
import ProxyConsole.Proofs.Requests

namespace ProxyConsole

/-! ### Requests with a token -/

namespace Request

theorem isHeaderText_ofList (cs : List Char) :
    isHeaderText (String.ofList cs) = cs.all isHeaderChar := by
  rw [isHeaderText, String.toList_ofList]

/-- A request without its token. -/
def bare (r : Request) : Request :=
  { r with bearer := none }

/-- A token that may stand in a header does not keep a request from being sent. -/
theorem call_of_isHeaderText {r : Request} {token : String} (hb : r.bearer = some token)
    (h : isHeaderText token = true) :
    r.call = r.bare.call.map fun k => { k with bearer := some token } := by
  have hbare : r.bare.bearer = none := rfl
  have haddress : r.bare.address = r.address := rfl
  have hurl : ∀ u, r.bare.extended u = r.extended u := fun _ => rfl
  unfold call
  simp only [hbare, haddress, hurl, hb, h, Option.map_some, Option.map_none, Option.getD_some,
    Option.getD_none, Bool.not_true, Bool.false_eq_true, ↓reduceIte]
  cases Url.parse r.address with
  | none => rfl
  | some u =>
    dsimp only
    split
    · rfl
    · split
      · rfl
      · rfl

/-- A token that may not stand in a header does. -/
theorem call_of_not_isHeaderText {r : Request} {token : String} (hb : r.bearer = some token)
    (h : isHeaderText token = false) : ∃ cause, r.call = .error cause := by
  unfold call
  cases Url.parse r.address with
  | none => exact ⟨_, rfl⟩
  | some u =>
    dsimp only
    by_cases hu : (!u.hasHost) = true
    · exact ⟨_, if_pos hu⟩
    · refine ⟨.unsendable, ?_⟩
      rw [if_neg hu, hb, Option.map_some, Option.getD_some, h]
      rfl

end Request

/-- What arrives with a token. -/
def Arrival.carrying (token : String) (x : Arrival) : Arrival :=
  { x with bearer := some ("Bearer " ++ token) }

/-- At a server that listens every request arrives that can be sent. -/
theorem Server.arrives_of_listening {v : Server} (h : v.listening = true) (r : Request) :
    v.arrives r = (r.call.toOption.map Call.arrival).toList := by
  unfold arrives
  cases r.call with
  | error cause => rfl
  | ok k =>
    rw [h]
    rfl

/-- At a plain server there arrives with a token what arrives without it, when the token may
stand in a header, and else nothing. -/
theorem Server.arrives_bearer {c : Setup} (hc : c.isPlain = true) {r : Request} {path : String}
    (ha : r.address = c.address path) {token : String} (hb : r.bearer = some token) (v : Server) :
    v.arrives r =
      if Request.isHeaderText token then (v.arrives r.bare).map (·.carrying token) else [] := by
  unfold arrives
  cases hh : Request.isHeaderText token with
  | false =>
    obtain ⟨cause, hcall⟩ := Request.call_of_not_isHeaderText hb hh
    rw [hcall]
    rfl
  | true =>
    rw [Request.call_of_isHeaderText hb hh]
    cases hk : r.bare.call with
    | error cause => rfl
    | ok k =>
      have hs : k.url.isHttps = false := Request.call_of_isPlain hc (r := r.bare) ha hk
      have harrival : Call.arrival { k with bearer := some token } = k.arrival.carrying token := by
        simp [Call.arrival, hs, Arrival.carrying]
      simp only [Except.map, harrival, ↓reduceIte]
      split
      · rfl
      · rfl

/-! ### Texts of tokens -/

namespace Token

/-- What is written in Base64 may stand in a header, and so may the padding behind it. -/
theorem isHeaderText_of_unpadded {segment : List Char} {bs : List UInt8}
    (h : unpadded segment = Base64Url.text bs) : segment.all Request.isHeaderChar = true := by
  have hsymbol : ∀ n < 64, Request.isHeaderChar (Base64Url.symbolChar n) = true := by decide
  rw [List.all_eq_true]
  intro x hx
  have hx : x ∈ segment.reverse.takeWhile (· == '=') ++ segment.reverse.dropWhile (· == '=') := by
    rw [List.takeWhile_append_dropWhile]
    exact List.mem_reverse.mpr hx
  rcases List.mem_append.mp hx with hx | hx
  · have hpad : x = '=' := beq_iff_eq.mp (List.mem_takeWhile_imp (p := (· == '=')) hx)
    rw [hpad]
    decide
  · have hx : x ∈ Base64Url.text bs := by
      rw [← h]
      exact List.mem_reverse.mpr hx
    obtain ⟨n, hn, rfl⟩ := List.mem_map.mp hx
    exact hsymbol n (Base64Url.numbersOf_lt bs n hn)

/-- A token has three segments, and its text may stand in a header when its first and its
last segment may. -/
theorem isHeaderText_iff {s : String} {t : Token} (h : read s = .ok t) :
    ∃ header segment signature, Text.split '.' t.text.toList = [header, segment, signature] ∧
      (Request.isHeaderText t.text = true ↔
        header.all Request.isHeaderChar = true ∧ signature.all Request.isHeaderChar = true) := by
  obtain ⟨ht, o, ⟨header, segment, signature, bs, hsplit, -, hbs, -⟩, -⟩ := read_iff.mp h
  have htext : t.text.toList = Text.trim s.toList := by
    rw [ht, Text.trimmed, String.toList_ofList]
  have hjoin : t.text = String.ofList (header ++ '.' :: (segment ++ '.' :: signature)) := by
    rw [← String.ofList_toList (s := t.text), htext, ← Text.join_split '.' (Text.trim s.toList),
      hsplit]
    rfl
  have hdot : Request.isHeaderChar '.' = true := by decide
  refine ⟨header, segment, signature, htext ▸ hsplit, ?_⟩
  simp only [hjoin, Request.isHeaderText_ofList, List.all_append, List.all_cons, hdot,
    isHeaderText_of_unpadded hbs, Bool.true_and, Bool.and_eq_true]

end Token

/-! ### Sessions after a login -/

namespace Session

/-- What a session is good for that holds a token. If the token may stand in a header, which
its first and its last segment decide, every call that could be sent without it reaches the
server and carries it; if it may not, every call fails for want of an answer, and no row of
calls does anything to the session or to the server. -/
structure Holds (c : Setup) (s : Session) (t : Token) : Prop where
  current : s.current c = some t
  segments : ∃ header segment signature, Text.split '.' t.text.toList = [header, segment, signature] ∧
    (Request.isHeaderText t.text = true ↔
      header.all Request.isHeaderChar = true ∧ signature.all Request.isHeaderChar = true)
  carried : c.isPlain = true → Request.isHeaderText t.text = true → ∀ a,
    (s.ask c a).2.server.arrivals = s.server.arrivals ++
      ((s.request c a).bare.call.toOption.map fun k => k.arrival.carrying t.text).toList
  unsent : Request.isHeaderText t.text = false → ∀ a,
    ∃ cause, (s.ask c a).1 = .error (.unanswered cause)
  stuck : Request.isHeaderText t.text = false → ∀ asks : List Ask,
    s.after c (asks.map .call) = s

/-- An answer comes from a server that listens. -/
theorem listening_of_ok {c : Setup} {r : Request} {s : Session} {a : Answer}
    (h : (s.send c r).1 = .ok a) : s.server.listening = true := by
  cases hk : r.call with
  | error cause =>
    rw [send_of_error hk] at h
    cases h
  | ok k =>
    have hr : (s.exchange c k).1 = some a := by
      rw [← (send_of_call hk s).1, h]
      rfl
    by_contra hl
    rw [exchange_fst, Server.take, if_neg hl] at hr
    cases hr

theorem listening_login {c : Setup} {credentials : Credentials} {s : Session} {t : Token}
    (h : (s.login c credentials).1 = .ok t) :
    (s.login c credentials).2.server.listening = true := by
  obtain ⟨a, hg⟩ := (login_eq_ok c credentials s).mp h
  rw [server_login, listening_send]
  exact listening_of_ok hg.answered

theorem bearer_request {c : Setup} {s : Session} {t : Token} (h : s.current c = some t) (a : Ask) :
    (s.request c a).bearer = some t.text := by
  rw [request, h, Option.map_some]

/-- Under a token that may not stand in a header a call changes nothing. -/
theorem ask_of_not_isHeaderText {c : Setup} {s : Session} {t : Token} (h : s.current c = some t)
    (hh : Request.isHeaderText t.text = false) (a : Ask) :
    ∃ cause, s.ask c a = (.error (.unanswered cause), s) := by
  obtain ⟨cause, hcall⟩ := Request.call_of_not_isHeaderText (bearer_request h a) hh
  exact ⟨cause, ask_unsent hcall⟩

theorem after_of_not_isHeaderText {c : Setup} {s : Session} {t : Token}
    (h : s.current c = some t) (hh : Request.isHeaderText t.text = false) :
    ∀ asks : List Ask, s.after c (asks.map .call) = s
  | [] => rfl
  | a :: asks => by
    obtain ⟨cause, ha⟩ := ask_of_not_isHeaderText h hh a
    rw [List.map_cons, after, after_of_not_isHeaderText h hh asks, does, ha]

/-- **A login that succeeds leaves a session that holds the token.** -/
theorem login_holds {c : Setup} {credentials : Credentials} {s : Session} {t : Token}
    (h : (s.login c credentials).1 = .ok t) : (s.login c credentials).2.Holds c t := by
  have hcur := current_login h
  obtain ⟨a, hg⟩ := (login_eq_ok c credentials s).mp h
  obtain ⟨text, -, hread⟩ := hg.token
  refine ⟨hcur, Token.isHeaderText_iff hread, fun hc hh a => ?_, fun hh a => ?_,
    after_of_not_isHeaderText hcur⟩
  · have haddress : ((s.login c credentials).2.request c a).address = c.address a.path := rfl
    have harrives := Server.arrives_bearer hc haddress
      (bearer_request hcur a) (s.login c credentials).2.server
    rw [server_ask, sent, arrivals_send, harrives, if_pos hh,
      Server.arrives_of_listening (listening_login h)]
    cases ((s.login c credentials).2.request c a).bare.call with
    | error cause => rfl
    | ok k => rfl
  · obtain ⟨cause, ha⟩ := ask_of_not_isHeaderText hcur hh a
    exact ⟨cause, congrArg Prod.fst ha⟩

/-- A session without a token, at a server that grants one by the text in its answer. -/
def granted (token : String) : Session :=
  .start (.memory none)
    ⟨true, [.answer ⟨200, Utf8.bytes ("\x7b\"token\":\"" ++ token ++ "\"\x7d"), true⟩], []⟩

/-- The call behind a login is sent with a token that has padding and a tab in it. -/
theorem login_holds_tab : ∃ t,
    ((granted " a.e30=.c\\td ").login .loopback ⟨"a@x", "p"⟩).1 = .ok t ∧
    ((granted " a.e30=.c\\td ").login .loopback ⟨"a@x", "p"⟩).2.Holds .loopback t ∧
    ((((granted " a.e30=.c\\td ").login .loopback ⟨"a@x", "p"⟩).2.ask .loopback
      (.get Console.infoPath [])).2.server.arrivals.map (·.auth)) =
        [none, some "Bearer a.e30=.c\td"] := by
  have ht : ((granted " a.e30=.c\\td ").login .loopback ⟨"a@x", "p"⟩).1.toOption.isSome = true := by
    decide +kernel
  obtain ⟨t, ht⟩ := Option.isSome_iff_exists.mp ht
  exact ⟨t, toOption_eq_some.mp ht, login_holds (toOption_eq_some.mp ht), by decide +kernel⟩

/-- A session after a login with a token that has a control character in its header. -/
def stranded : Session :=
  ((granted "a\\u0001.e30.c").login .loopback ⟨"a@x", "p"⟩).2

/-- The login is granted and the session is live, and the call behind it is not sent. -/
theorem login_stranded :
    ((granted "a\\u0001.e30.c").login .loopback ⟨"a@x", "p"⟩).1.toOption.map Token.text =
      some "a\x01.e30.c" ∧
    stranded.isLive .loopback = true ∧ stranded.server.arrivals.length = 1 ∧
    (stranded.ask .loopback (.get Console.infoPath [])).2.server.arrivals.length = 1 ∧
    ((stranded.ask .loopback (.get Console.infoPath [])).1.map Answer.status).mapError
      Failure.message = .error "request failed: builder error" ∧
    (stranded.ask .loopback (.get Console.infoPath [])).2.isLive .loopback = true := by
  decide +kernel

end Session
end ProxyConsole
