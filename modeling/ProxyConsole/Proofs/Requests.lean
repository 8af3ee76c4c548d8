/-
# The requests that are made

Of all that is done to a session, a call makes one request and a login makes one, and
nothing else makes any. A request is made whether or not it can be sent; what arrives at
the server in a row of deeds is what arrives of its requests, one behind the other. So to
say what was asked of the server it is enough to say which requests were made.

Key definition: `Session.requests`.
Key theorems: `Session.requests_append`, `Session.arrivals_requests`,
`Session.requests_handled`.
-/
import ProxyConsole.Proofs.Bearer

namespace ProxyConsole

namespace Session

/-! ### A server that listens goes on to listen -/

theorem listening_send (c : Setup) (r : Request) (s : Session) :
    (s.send c r).2.server.listening = s.server.listening := by
  rw [server_send]
  cases r.call with
  | error cause => rfl
  | ok k =>
    dsimp only [Server.take]
    split
    · rfl
    · rfl

theorem listening_does (c : Setup) (s : Session) (x : Deed) :
    (s.does c x).server.listening = s.server.listening := by
  cases x with
  | call a =>
    rw [does, server_ask]
    exact listening_send c (s.request c a) s
  | login credentials =>
    rw [does, server_login]
    exact listening_send c (loginRequest c credentials) s
  | visit target => rw [does, server_navigate]
  | fail p => rw [does, server_fail]
  | collect f => rfl
  | succeed text => rfl
  | dismiss => rfl
  | wait ms => rfl

theorem listening_after (c : Setup) (s : Session) (past : List Deed) :
    (s.after c past).server.listening = s.server.listening :=
  after_induct (P := fun t : Session => t.server.listening = s.server.listening)
    (fun t x h => (listening_does c t x).trans h) rfl past

/-- What arrives of a request depends on the server only by whether it listens. -/
theorem arrives_after (c : Setup) (s : Session) (past : List Deed) :
    (s.after c past).server.arrives = s.server.arrives := by
  funext r
  unfold Server.arrives
  rw [listening_after]

/-! ### Requests -/

/-- The requests that a row of deeds makes, in the order in which they are made. -/
def requests (c : Setup) (s : Session) : List Deed → List Request
  | [] => []
  | x :: past => s.requests c past ++ (x.request? c (s.after c past)).toList

theorem requests_append (c : Setup) (s : Session) (past : List Deed) : ∀ later : List Deed,
    s.requests c (later ++ past) = s.requests c past ++ (s.after c past).requests c later
  | [] => (List.append_nil _).symm
  | x :: later => by
    rw [List.cons_append, requests, requests, requests_append c s past later, after_append,
      List.append_assoc]

/-- **What arrives in a row of deeds** is what arrives of its requests, in their order. -/
theorem arrivals_requests (c : Setup) (s : Session) : ∀ past : List Deed,
    (s.after c past).server.arrivals =
      s.server.arrivals ++ (s.requests c past).flatMap s.server.arrives
  | [] => (List.append_nil _).symm
  | x :: past => by
    rw [after, arrivals_does, arrivals_requests c s past, arrives_after, requests,
      List.flatMap_append, List.append_assoc]
    congr 2
    cases x.request? c (s.after c past) with
    | none => rfl
    | some r => exact (List.flatMap_singleton s.server.arrives r).symm

/-- To hand over a failure makes no request. -/
theorem requests_deeds (c : Setup) (h : Handler) (f : Failure) (s : Session) :
    s.requests c (h.deeds f) = [] := by
  cases h with
  | banner =>
    unfold Handler.deeds
    by_cases hf : f.isPermission = true
    · simp only [if_pos hf, requests]
    · simp only [if_neg hf, requests, Deed.request?, Option.toList_none, List.append_nil]
  | collector => rfl

/-- A call whose failure is handed over makes one request. -/
theorem requests_handled (c : Setup) (h : Handler) (s : Session) (f? : Option Failure) (a : Ask) :
    s.requests c (f?.elim [] h.deeds ++ [.call a]) = [s.request c a] := by
  rw [requests_append]
  have hone : s.requests c [.call a] = [s.request c a] := rfl
  cases f? with
  | none => rw [Option.elim_none, requests, List.append_nil, hone]
  | some f => rw [Option.elim_some, requests_deeds, List.append_nil, hone]

end Session
end ProxyConsole
