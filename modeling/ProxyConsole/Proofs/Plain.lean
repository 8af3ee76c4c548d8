/-
# Servers without encryption

What a call is, when it arrives, and what its answer is depend on whether the
server is reached without encryption. The scheme of an address stands in front
of its first colon, so it is the scheme of the server whatever path is asked
for: at a plain server every call that can be sent arrives as it is, with its
token and with the name and the password in its address, and every answer comes
back.

Key definitions: `Setup.isPlain`, `Request.basic?`, `Server.arrives`,
`Session.isGivenUp`.
Key theorems: `Setup.scheme?_address`, `Request.call_eq_ok`,
`Session.notices_send`, `Session.arrivals_send`, `Session.headers_of_arrives`.
-/
import ProxyConsole.Session.Ask
import ProxyConsole.Session.Login

namespace ProxyConsole

/-! ### The scheme of an address -/

namespace Text

/-- What is dropped in front of a text does not reach past a character that is not
dropped. -/
theorem dropWhile_stop (p : α → Bool) (a : α) (h : p a = false) (xs ys : List α) :
    (xs ++ a :: ys).dropWhile p = xs.dropWhile p ++ a :: ys := by
  rw [List.dropWhile_append]
  split
  · next he => rw [List.isEmpty_iff.mp he, List.dropWhile_cons_of_neg (by simp [h]), List.nil_append]
  · rfl

theorem takeWhile_stop (p : α → Bool) (a : α) (h : p a = false) (xs ys : List α) :
    (xs ++ a :: ys).takeWhile p = xs.takeWhile p := by
  induction xs with
  | nil => simp [h]
  | cons x xs ih =>
    rw [List.cons_append, List.takeWhile_cons, List.takeWhile_cons, ih]

/-- What is dropped at the end of a text does not reach past such a character either. -/
theorem reverse_dropWhile_stop (p : α → Bool) (a : α) (h : p a = false) (xs ys : List α) :
    ((xs ++ a :: ys).reverse.dropWhile p).reverse = xs ++ a :: (ys.reverse.dropWhile p).reverse := by
  rw [List.reverse_append, List.reverse_cons, List.append_assoc, List.singleton_append,
    dropWhile_stop p a h, List.reverse_append, List.reverse_cons, List.reverse_reverse,
    List.append_assoc, List.singleton_append]

end Text

namespace Url

/-- A character that does not count at the ends of an address. -/
def isEdge (c : Char) : Bool := decide (c.toNat ≤ 0x20)

/-- A character that counts within an address. -/
def isKept (c : Char) : Bool := decide (c ≠ '\t' ∧ c ≠ '\n' ∧ c ≠ '\r')

/-- The front of an address without what does not count in it. -/
def cleanFront (cs : List Char) : List Char :=
  (cs.dropWhile isEdge).filter isKept

/-- The back of an address without what does not count in it. -/
def cleanBack (cs : List Char) : List Char :=
  ((cs.reverse.dropWhile isEdge).reverse).filter isKept

/-- Around a character that counts everywhere, front and back of an address are cleaned
apart from each other. -/
theorem clean_append {x : Char} (he : isEdge x = false) (hk : isKept x = true)
    (front back : List Char) :
    clean (front ++ x :: back) = cleanFront front ++ x :: cleanBack back := by
  change (((((front ++ x :: back).dropWhile isEdge).reverse).dropWhile isEdge).reverse).filter
    isKept = _
  rw [Text.dropWhile_stop isEdge x he, Text.reverse_dropWhile_stop isEdge x he,
    List.filter_append, List.filter_cons_of_pos hk]
  rfl

theorem mem_of_mem_clean {x : Char} {cs : List Char} (h : x ∈ clean cs) : x ∈ cs := by
  have h := (List.mem_filter.mp h).1
  have h := (List.dropWhile_suffix _).subset (List.mem_reverse.mp h)
  exact (List.dropWhile_suffix _).subset (List.mem_reverse.mp h)

/-- Whether a character may stand in a scheme. -/
def isSchemePart (c : Char) : Bool :=
  c.isAlphanum || c == '+' || c == '-' || c == '.'

theorem scheme?_def (cs : List Char) :
    scheme? cs = match cs.takeWhile isSchemePart, cs.dropWhile isSchemePart with
      | a :: s, ':' :: r => if a.isAlpha then some ((a :: s).map Char.toLower, r) else none
      | _, _ => none := rfl

/-- A scheme stands in front of a colon. -/
theorem colon_mem_of_scheme? {cs : List Char} {r : List Char × List Char}
    (h : scheme? cs = some r) : ':' ∈ cs := by
  rw [scheme?_def] at h
  split at h
  · next a front rest _ hd =>
    have hm : ':' ∈ ':' :: rest := List.mem_cons_self
    rw [← hd] at hm
    exact (List.dropWhile_suffix _).subset hm
  · cases h

/-- The scheme does not depend on what stands behind the first colon. -/
theorem scheme?_colon {front back : List Char} {r : List Char × List Char} (hf : ':' ∉ front)
    (h : scheme? (front ++ ':' :: back) = some r) (back' : List Char) :
    scheme? (front ++ ':' :: back') = some (r.1, back') := by
  have hc : isSchemePart ':' = false := by decide
  rw [scheme?_def, Text.takeWhile_stop isSchemePart ':' hc,
    Text.dropWhile_stop isSchemePart ':' hc] at h ⊢
  cases hd : front.dropWhile isSchemePart with
  | nil =>
    rw [hd] at h
    cases ht : front.takeWhile isSchemePart with
    | nil =>
      rw [ht] at h
      cases h
    | cons a s =>
      rw [ht] at h
      simp only [List.nil_append] at h ⊢
      split at h
      · next ha =>
        rw [if_pos ha]
        cases h
        rfl
      · cases h
  | cons x xs =>
    -- what is no part of a scheme comes first, and it is no colon
    have hx : x ∈ front := (List.dropWhile_suffix isSchemePart).subset (hd ▸ List.mem_cons_self)
    have hne : x ≠ ':' := fun he => hf (he ▸ hx)
    rw [hd] at h
    split at h
    · next hs =>
      rw [List.cons_append] at hs
      exact absurd (List.cons.inj hs).1 hne
    · cases h

theorem scheme_withHost {web : Bool} {scheme cs : List Char} {u : Url}
    (h : withHost web scheme cs = some u) : u.scheme = scheme := by
  unfold withHost at h
  dsimp only at h
  split at h
  · cases h
  · simp only [bind, Option.bind_eq_some_iff, pure, Option.some.injEq] at h
    obtain ⟨host, -, port, -, hu⟩ := h
    rw [← hu]
    rfl

theorem isHttp_anonymous (u : Url) : u.anonymous.isHttp = u.isHttp := by
  unfold anonymous
  split <;> rfl

theorem isHttps_of_isHttp {u : Url} (h : u.isHttp = true) : u.isHttps = false := by
  unfold isHttp at h
  unfold isHttps
  rw [beq_iff_eq] at h
  rw [h]
  decide

end Url

/-! ### Plain servers -/

/-- Whether the server is reached without encryption. -/
def Setup.isPlain (c : Setup) : Bool :=
  match Url.scheme? (Url.clean c.server.toList) with
  | some (scheme, _) => scheme == "http".toList
  | none => false

namespace Setup

/-- A plain server on this host. -/
def loopback : Setup := ⟨"http://127.0.0.1:4443", none, none, 0⟩

theorem scheme?_of_isPlain {c : Setup} (h : c.isPlain = true) :
    ∃ rest, Url.scheme? (Url.clean c.server.toList) = some ("http".toList, rest) := by
  unfold isPlain at h
  split at h
  · next scheme rest hs =>
    rw [beq_iff_eq] at h
    exact ⟨rest, h ▸ hs⟩
  · cases h

/-- At a plain server every path has an address of the web without encryption, in which the
same stands behind the scheme but for slashes in front of the path. -/
theorem scheme?_address {c : Setup} (h : c.isPlain = true) : ∃ back,
    Url.scheme? (Url.clean c.server.toList) = some ("http".toList, Url.cleanBack back) ∧
      ∀ path : String, Url.scheme? (Url.clean (c.address path).toList) = some ("http".toList,
        Url.cleanBack ((back.reverse.dropWhile (· == '/')).reverse ++ path.toList)) := by
  obtain ⟨rest, hs⟩ := scheme?_of_isPlain h
  have hm : ':' ∈ c.server.toList := Url.mem_of_mem_clean (Url.colon_mem_of_scheme? hs)
  obtain ⟨front, back, he, hf⟩ := List.eq_append_cons_of_mem hm
  have hclean : ∀ cs, Url.clean (front ++ ':' :: cs) =
      Url.cleanFront front ++ ':' :: Url.cleanBack cs :=
    Url.clean_append (by decide) (by decide) front
  have hcolon : ':' ∉ Url.cleanFront front := fun hx =>
    hf ((List.dropWhile_suffix Url.isEdge).subset (List.mem_filter.mp hx).1)
  rw [he, hclean] at hs
  refine ⟨back, ?_, fun path => ?_⟩
  · rw [he, hclean]
    exact Url.scheme?_colon hcolon hs _
  · have ha : (c.address path).toList =
        front ++ ':' :: ((back.reverse.dropWhile (· == '/')).reverse ++ path.toList) := by
      rw [address, base, he, String.toList_append, String.toList_ofList,
        Text.reverse_dropWhile_stop (· == '/') ':' (by decide), List.append_assoc, List.cons_append]
    rw [ha, hclean]
    exact Url.scheme?_colon hcolon hs _

/-- The address of a path at a plain server is read as one with a host. -/
theorem parse_of_isPlain {c : Setup} (h : c.isPlain = true) : ∃ back,
    Url.scheme? (Url.clean c.server.toList) = some ("http".toList, Url.cleanBack back) ∧
      ∀ path : String, Url.parse (c.address path) = Url.withHost true "http".toList
        ((Url.cleanBack ((back.reverse.dropWhile (· == '/')).reverse ++ path.toList)).dropWhile
          (Url.isSlash true)) := by
  obtain ⟨back, hs, ha⟩ := scheme?_address h
  have hport : (Url.usualPort "http".toList).isSome = true := by decide
  refine ⟨back, hs, fun path => ?_⟩
  unfold Url.parse
  simp only [ha, bind, Option.bind_some, hport, ↓reduceIte]

theorem isHttp_of_isPlain {c : Setup} (h : c.isPlain = true) {path : String} {u : Url}
    (hu : Url.parse (c.address path) = some u) : u.isHttp = true := by
  obtain ⟨back, -, hp⟩ := parse_of_isPlain h
  rw [hp] at hu
  rw [Url.isHttp, Url.scheme_withHost hu]
  decide

end Setup

/-! ### Calls at a plain server -/

/-- The header for the name and the password in the address of a request. -/
def Request.basic? (r : Request) : Option String :=
  (Url.parse r.address).bind Url.basic?

/-- A request that can be sent is sent as it is, with the name and the password in its address
apart from the rest. -/
theorem Request.call_eq_ok {r : Request} {k : Call} (hk : r.call = .ok k) :
    ∃ u, Url.parse r.address = some u ∧
      k = ⟨r.method, r.extended u.anonymous, r.basic?, r.bearer, r.body⟩ := by
  unfold call at hk
  split at hk
  · cases hk
  · next u hu =>
    split at hk
    · cases hk
    · split at hk
      · cases hk
      · dsimp only at hk
        split at hk
        · refine ⟨u, hu, ?_⟩
          rw [basic?, hu]
          cases hk
          rfl
        · cases hk

/-- A request that can be sent goes to a plain server without encryption. -/
theorem Request.call_of_isPlain {c : Setup} (h : c.isPlain = true) {r : Request} {path : String}
    (ha : r.address = c.address path) {k : Call} (hk : r.call = .ok k) :
    k.url.isHttps = false := by
  obtain ⟨u, hu, rfl⟩ := call_eq_ok hk
  have hu : u.isHttp = true := Setup.isHttp_of_isPlain h (ha ▸ hu)
  refine Url.isHttps_of_isHttp ?_
  rw [← hu, ← Url.isHttp_anonymous u]
  unfold extended
  split <;> rfl

/-- Without encryption a call arrives as it is. -/
theorem Call.arrival_of_plain {k : Call} (h : k.url.isHttps = false) :
    k.arrival =
      ⟨k.method, k.url.sent.text, k.basic, k.bearer.map ("Bearer " ++ ·), k.body⟩ := by
  unfold arrival
  simp only [h, Bool.false_eq_true, ↓reduceIte]

/-- The answer that a reply is, if it is one. -/
def Reply.answer? : Reply → Option Answer
  | .answer a => some a
  | _ => none

/-- A reply as it comes back without encryption. -/
def Reply.delivered : Reply → Reply
  | .answer a => .answer a.delivered
  | r => r

/-- Without encryption the reply of the script comes back. -/
theorem Server.take_fst {v : Server} {k : Call} (hl : v.listening = true)
    (hs : k.url.isHttps = false) : (v.take k).1 = (v.replies.headD lastReply).delivered := by
  rw [take, if_pos hl]
  cases v.replies.headD lastReply with
  | answer a => simp only [hs, Bool.false_eq_true, ↓reduceIte, Reply.delivered]
  | drop => rfl
  | hang => rfl

/-- What arrives of a request at a server. -/
def Server.arrives (v : Server) (r : Request) : List Arrival :=
  match r.call with
  | .ok k => if v.listening then [k.arrival] else []
  | .error _ => []

namespace Session

theorem exchange_fst (c : Setup) (k : Call) (s : Session) :
    (s.exchange c k).1 = (s.server.take k).1.answer? := by
  unfold exchange
  dsimp only
  split
  · next a _ ha => rw [ha]; rfl
  · next ha _ => rw [ha]; rfl
  · next ha _ =>
    cases hr : (s.server.take k).1 with
    | answer a => exact absurd hr (ha a)
    | drop => rfl
    | hang => rfl

theorem server_exchange (c : Setup) (k : Call) (s : Session) :
    (s.exchange c k).2.server = (s.server.take k).2 := by
  unfold exchange
  dsimp only
  split <;> rfl

/-- A request that can be sent is exchanged. -/
theorem send_of_call {c : Setup} {r : Request} {k : Call} (hk : r.call = .ok k) (s : Session) :
    (s.send c r).1.toOption = (s.exchange c k).1 ∧ (s.send c r).2 = (s.exchange c k).2 := by
  unfold send
  rw [hk]
  dsimp only
  generalize s.exchange c k = x
  obtain ⟨_ | a, t⟩ := x
  · exact ⟨rfl, rfl⟩
  · exact ⟨rfl, rfl⟩

/-- A request that cannot be sent changes nothing. -/
theorem send_of_error {c : Setup} {r : Request} {cause : Cause} (hk : r.call = .error cause)
    (s : Session) : s.send c r = (.error (.unanswered cause), s) := by
  unfold send
  rw [hk]

/-- Whether a request is given up, after some time, for want of an answer. -/
def isGivenUp (c : Setup) (r : Request) (s : Session) : Bool :=
  match r.call with
  | .ok k => (s.server.take k).1 == .hang && c.timeout.isSome
  | .error _ => false

theorem notices_exchange (c : Setup) (k : Call) (s : Session) :
    (s.exchange c k).2.notices =
      if (s.server.take k).1 == .hang && c.timeout.isSome
      then s.notices.elapse (s.exchange c k).2.clock else s.notices := by
  unfold exchange
  dsimp only
  split
  · next a _ ha => simp [ha]
  · next ha ht => simp [ha, ht, wait]
  · next hno hsome =>
    have hn : ((s.server.take k).1 == .hang && c.timeout.isSome) = false := by
      rw [Bool.and_eq_false_iff, beq_eq_false_iff_ne, Option.isSome_eq_false_iff,
        Option.isNone_iff_eq_none]
      by_cases hr : (s.server.take k).1 = .hang
      · refine Or.inr (Option.eq_none_iff_forall_ne_some.mpr fun seconds ht => ?_)
        exact hsome seconds hr ht
      · exact Or.inl hr
    rw [hn]
    rfl

/-- What is shown stays as it is while a request is sent, unless the request is given up;
then it goes on with the clock. -/
theorem notices_send (c : Setup) (r : Request) (s : Session) :
    (s.send c r).2.notices =
      if s.isGivenUp c r then s.notices.elapse (s.send c r).2.clock else s.notices := by
  unfold isGivenUp
  cases hk : r.call with
  | error cause =>
    rw [send_of_error hk]
    rfl
  | ok k =>
    rw [(send_of_call hk s).2]
    exact notices_exchange c k s

/-- A request that an answer comes to is not given up. -/
theorem isGivenUp_of_ok {c : Setup} {r : Request} {s : Session} {a : Answer}
    (h : (s.send c r).1 = .ok a) : s.isGivenUp c r = false := by
  unfold isGivenUp
  cases hk : r.call with
  | error cause => rfl
  | ok k =>
    have hr : (s.exchange c k).1 = some a := by
      rw [← (send_of_call hk s).1, h]
      rfl
    rw [exchange_fst] at hr
    dsimp only
    cases ht : (s.server.take k).1 with
    | answer b => rfl
    | drop => rfl
    | hang =>
      rw [ht] at hr
      cases hr

/-- The server takes the requests that can be sent. -/
theorem server_send (c : Setup) (r : Request) (s : Session) :
    (s.send c r).2.server = match r.call with
      | .ok k => (s.server.take k).2
      | .error _ => s.server := by
  cases hk : r.call with
  | error cause => rw [send_of_error hk]
  | ok k => rw [(send_of_call hk s).2, server_exchange]

/-- Requests arrive one behind the other. -/
theorem arrivals_send (c : Setup) (r : Request) (s : Session) :
    (s.send c r).2.server.arrivals = s.server.arrivals ++ s.server.arrives r := by
  rw [server_send]
  unfold Server.arrives
  cases r.call with
  | error cause => exact (List.append_nil _).symm
  | ok k =>
    unfold Server.take
    dsimp only
    by_cases hl : s.server.listening = true
    · rw [if_pos hl, if_pos hl]
    · rw [if_neg hl, if_neg hl, List.append_nil]

/-- What arrives at a plain server carries the name and the password in its address and the
token that it was sent with. -/
theorem headers_of_arrives {c : Setup} (h : c.isPlain = true) {r : Request} {path : String}
    (ha : r.address = c.address path) {v : Server} {x : Arrival} (hx : x ∈ v.arrives r) :
    x.basic = r.basic? ∧ x.bearer = r.bearer.map ("Bearer " ++ ·) := by
  unfold Server.arrives at hx
  cases hk : r.call with
  | error cause =>
    rw [hk] at hx
    cases hx
  | ok k =>
    rw [hk] at hx
    dsimp only at hx
    split at hx
    · obtain ⟨u, -, he⟩ := Request.call_eq_ok hk
      rw [List.mem_singleton] at hx
      rw [hx, Call.arrival_of_plain (Request.call_of_isPlain h ha hk), he]
      exact ⟨rfl, rfl⟩
    · cases hx

end Session
end ProxyConsole
