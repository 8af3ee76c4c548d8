/-
# What a command says of itself

A command on records or on users ends with status 0 only if the user was logged
in, every call of the run was answered with a success, and every answer held what
it was fetched for. When a call fails the command says so, and says the same as
the console: that the user is not logged in, when the call was denied, and
otherwise the line that the user is told. The words of the failure itself are never
printed, since no failure reaches a command of which the user was not told.

A command is a run of the desk, whose trace lists the calls and whose log lists
what came back to them.

Key definitions: `Failure.verdict`, `Run.Says`, `Run.Reports`, `RecordCommand.acts`,
`UserCommand.acts`, `Command.Truthful`, `Command.TellsTruth`.
Key theorems: `Run.says_failure`, `Run.reports_andThen`, `Command.truthful`.
-/
import ProxyConsole.Command.Run
import ProxyConsole.Proofs.Account

namespace ProxyConsole

open Collection (Use)
open Session (Accounts)

/-! ### Runs of a command -/

/-- What a command prints of a failure. -/
def Failure.verdict (f : Failure) : String :=
  if f.isPermission then "Not logged in (now at /login)" else f.payload.shown

namespace Run

/-- A run says of a failure what the user is told of it: it ends with status 1 and the verdict,
and the line of the error is that of the failure unless a permission was missing. -/
structure Says (r : Run) (f : Failure) : Prop where
  outcome : r.outcome = ⟨1, [], some f.verdict⟩
  told : f.isPermission = false → r.2.2.session.notices.error = some f.payload.shown

/-- A run of a command from a session reports what came back to its calls: it ends well only
if every call was answered with a success, and of a call that failed it says so. -/
structure Reports (c : Setup) (s : Session) (r : Run) (row : List Deed) (news : List Tiding) :
    Prop where
  does : r.2.2.session = s.after c row
  answered : r.outcome.exit = 0 → ∀ x ∈ s.answers c row, Session.IsSuccess x
  back : ∀ x ∈ news, x.holds = true ∨ ∃ f, ComesBack x (some f) ∧ r.Says f

variable {c : Setup} {s : Session} {r : Except Failure α × Console} {row : List Deed}
  {news : List Tiding}

/-- The words of a failure that was accounted for are not printed. -/
theorem says_failure {f : Failure} {k : Console} (h : Accounts c s (some f) k.session row news) :
    (fail (Report.failure f k) k).Says f := by
  have hm : Report.failure f k = f.verdict := by
    unfold Report.failure Failure.verdict
    cases hp : f.isPermission with
    | true =>
      have hr : k.session.route = .login := h.expelled f rfl hp
      rw [hr]
      rfl
    | false =>
      have hn : k.session.notices.error = some f.payload.shown := h.told f rfl hp
      simp [hn]
  refine ⟨?_, h.told f rfl⟩
  rw [hm]
  rfl

theorem reports_done (k : Console) (lines : List String) :
    Reports c k.session (done lines k) [] [] where
  does := rfl
  answered := by rintro - x ⟨⟩
  back := by rintro x ⟨⟩

/-- A run that ends with the failure of an operation says so. -/
theorem reports_fail {f : Failure} {k : Console} (h : Accounts c s (some f) k.session row news) :
    Reports c s (fail (Report.failure f k) k) row news := by
  refine ⟨h.does, ?_, ?_⟩
  · rintro ⟨⟩
  · intro x hx
    rcases h.back x hx with hh | ⟨e, he, hb⟩
    · exact .inl hh
    · cases he
      exact .inr ⟨f, hb, says_failure h⟩

/-- A run that goes on after an operation without a failure reports both. -/
theorem Reports.behind {t : Session} {x : Run} {later : List Deed} {more : List Tiding}
    (hq : Reports c t x later more) (h : Accounts c s none t row news) :
    Reports c s x (later ++ row) (more ++ news) := by
  have ht : t = s.after c row := h.does
  refine ⟨?_, ?_, ?_⟩
  · rw [Session.after_append, ← ht]
    exact hq.does
  · intro hx y hy
    rw [Session.answers_append, ← ht, List.mem_append] at hy
    rcases hy with hy | hy
    · exact hq.answered hx y hy
    · exact h.answered rfl y hy
  · intro y hy
    rcases List.mem_append.mp hy with hy | hy
    · exact hq.back y hy
    · exact .inl (h.holds hy)

theorem reports_andThen (h : Accounts c s (Failure.of? r.1) r.2.session row news)
    {later : α → List Deed} {more : α → List Tiding} {go : α → Console → Run}
    (hgo : ∀ a, r.1 = .ok a → Reports c r.2.session (go a r.2) (later a) (more a)) :
    Reports c s (Command.andThen r go) (Deed.onSuccess r.1 later ++ row)
      (Tiding.onSuccess r.1 more ++ news) := by
  obtain ⟨f | a, k⟩ := r
  · exact reports_fail h
  · exact (hgo a rfl).behind h

/-- A run of one operation that prints what came of it. -/
theorem reports_last (h : Accounts c s (Failure.of? r.1) r.2.session row news)
    (lines : α → List String) :
    Reports c s (Command.andThen r fun a k => done (lines a) k) row news := by
  obtain ⟨f | a, k⟩ := r
  · exact reports_fail h
  · exact (reports_done k (lines a)).behind h

/-- The form for a password says on its own what came of it. -/
theorem reports_submitPassword (c : Setup) (password confirmation : String) (p : UserScreen)
    (k : Console) :
    Reports c k.session (Command.submitPassword c password confirmation p k)
      ((p.fill password confirmation).deeds c k.session .submitPassword) [] := by
  have hdoes := (p.fill password confirmation).submitPassword_eq_after c k.session
  have hanswered : ((p.fill password confirmation).submitPassword c k.session).1.error = none →
      ∀ x ∈ k.session.answers c
        ((p.fill password confirmation).deeds c k.session .submitPassword),
        Session.IsSuccess x := by
    unfold UserScreen.submitPassword UserScreen.deeds
    dsimp only
    split
    · rintro ⟨⟩
    · generalize hp : Collection.postPassword c (p.fill password confirmation).user.id
        (p.fill password confirmation).password k.session = r
      obtain ⟨f | _, t⟩ := r
      · rintro ⟨⟩
      · have ha := Session.isSuccess_of_tell (congrArg Prod.fst hp)
        exact fun _ => List.forall_mem_singleton.mpr ha
  unfold Command.submitPassword
  dsimp only
  generalize (p.fill password confirmation).submitPassword c k.session = r at hdoes hanswered ⊢
  cases he : r.1.error with
  | none =>
    refine ⟨hdoes, fun _ => hanswered he, ?_⟩
    rintro x ⟨⟩
  | some message =>
    refine ⟨hdoes, ?_, ?_⟩
    · rintro ⟨⟩
    · rintro x ⟨⟩

end Run

/-! ### Commands -/

/-- The acts that a command on records stands for. -/
def RecordCommand.acts : RecordCommand → List Act
  | .list => [.records]
  | .view id => [.openRecord id]
  | .new draft => [.newRecord draft]
  | .setBlacklist id b => [.openRecord id, .onRecord 0 (.setBlacklist b)]
  | .clearClients id => [.openRecord id, .onRecord 0 .clearClients]
  | .owner id email => [.openRecord id, .onRecord 0 (.saveOwner email)]
  | .delete id => [.openRecord id, .onRecord 0 .delete]

/-- The acts that a command on users stands for. -/
def UserCommand.acts : UserCommand → List Act
  | .list => [.users]
  | .view id => [.openUser id]
  | .new draft => [.newUser draft]
  | .password id word again =>
    [.openUser id, .onUser 0 (.fill word again), .onUser 0 .submitPassword]
  | .delete id => [.openUser id, .onUser 0 .delete]

namespace Desk

/-- A desk of a console, without pages. -/
def of (k : Console) : Desk := ⟨k, [], []⟩

/-- What comes back of a run that the user may have to be told of, the latest in front. -/
def news (c : Setup) (d : Desk) (acts : List Act) : List Tiding :=
  (d.log c acts).flatMap fun x => x.1.tidings c x.2

variable {c : Setup} {k : Console} {id : String}

theorem news_cons (d : Desk) (a : Act) (acts : List Act) :
    d.news c (a :: acts) = (d.act c a).news c acts ++ d.tidings c a := by
  simp [news, log]

theorem news_singleton (d : Desk) (a : Act) : d.news c [a] = d.tidings c a := by
  rw [news_cons]
  rfl

/-- Whoever opens the page of a record and does something there does it on that page. -/
theorem trace_onRecord (a : RecordScreen.Act) :
    (of k).trace c [.openRecord id, .onRecord 0 a] =
      Deed.onSuccess (k.openRecord c id).1 (fun p => p.deeds c (k.openRecord c id).2.session a) ++
        (of k).deeds c (.openRecord id) := by
  simp only [trace, act, of, deeds, Desk.session]
  generalize k.openRecord c id = r
  obtain ⟨f | p, k'⟩ := r
  · rfl
  · rfl

theorem news_onRecord (a : RecordScreen.Act) :
    (of k).news c [.openRecord id, .onRecord 0 a] =
      Tiding.onSuccess (k.openRecord c id).1
          (fun p => [(p.use a).tiding c (k.openRecord c id).2.session]) ++
        (of k).tidings c (.openRecord id) := by
  simp only [news_cons, act, of, tidings, Desk.session]
  generalize k.openRecord c id = r
  obtain ⟨f | p, k'⟩ := r
  · rfl
  · rfl

/-- Whoever opens the page of a user and deletes the user does it on that page. -/
theorem trace_onUser_delete :
    (of k).trace c [.openUser id, .onUser 0 .delete] =
      Deed.onSuccess (k.openUser c id).1
          (fun p => p.deeds c (k.openUser c id).2.session .delete) ++
        (of k).deeds c (.openUser id) := by
  simp only [trace, act, of, deeds, Desk.session]
  generalize k.openUser c id = r
  obtain ⟨f | p, k'⟩ := r
  · rfl
  · rfl

theorem news_onUser_delete :
    (of k).news c [.openUser id, .onUser 0 .delete] =
      Tiding.onSuccess (k.openUser c id).1
          (fun p => p.tidings c (k.openUser c id).2.session .delete) ++
        (of k).tidings c (.openUser id) := by
  simp only [news_cons, act, of, tidings, Desk.session]
  generalize k.openUser c id = r
  obtain ⟨f | p, k'⟩ := r
  · rfl
  · rfl

variable {password confirmation : String}

/-- A form is filled in on the page on which it is sent. -/
theorem trace_password :
    (of k).trace c
        [.openUser id, .onUser 0 (.fill password confirmation), .onUser 0 .submitPassword] =
      Deed.onSuccess (k.openUser c id).1
          (fun p => (p.fill password confirmation).deeds c (k.openUser c id).2.session
            .submitPassword) ++
        (of k).deeds c (.openUser id) := by
  simp only [trace, act, of, deeds, Desk.session]
  generalize k.openUser c id = r
  obtain ⟨f | p, k'⟩ := r
  · rfl
  · exact congrArg (· ++ _) (List.append_nil ((p.fill password confirmation).deeds c k'.session
      .submitPassword))

theorem news_password :
    (of k).news c
        [.openUser id, .onUser 0 (.fill password confirmation), .onUser 0 .submitPassword] =
      (of k).tidings c (.openUser id) := by
  simp only [news_cons, act, of, tidings, Desk.session]
  generalize k.openUser c id = r
  obtain ⟨f | p, k'⟩ := r
  · rfl
  · rfl

end Desk

namespace Command

/-- A command says of itself what is so. It is a run of the desk. It ends well only if the
user was logged in, every call of the run was answered with a success, and what came back to
every call of a collection holds what was asked for. Who is not logged in is told so. When a
call of a collection fails the run says of the failure what the user is told of it. -/
structure Truthful (c : Setup) (k : Console) (acts : List Act) (r : Run) : Prop where
  does : r.2.2.session = ((Desk.of k).run c acts).session
  live : r.outcome.exit = 0 → k.session.isLive c = true
  answered : r.outcome.exit = 0 →
    ∀ x ∈ k.session.answers c ((Desk.of k).trace c acts), Session.IsSuccess x
  held : r.outcome.exit = 0 → ∀ x ∈ (Desk.of k).news c acts, x.holds = true
  refused : k.session.isLive c = false → r.outcome = ⟨1, [], some Failure.permission.verdict⟩
  failed : ∀ x ∈ (Desk.of k).news c acts, x.holds = false →
    ∃ f, ComesBack x (some f) ∧ r.Says f

variable {c : Setup} {k : Console}

theorem Truthful.of_reports {acts : List Act} {r : Run}
    (h : Run.Reports c k.session r ((Desk.of k).trace c acts) ((Desk.of k).news c acts))
    (hr : k.session.isLive c = false → r.outcome = ⟨1, [], some Failure.permission.verdict⟩) :
    Truthful c k acts r where
  does := h.does.trans (Desk.session_run c acts (Desk.of k)).symm
  live hx := by
    cases hl : k.session.isLive c with
    | true => rfl
    | false =>
      rw [hr hl] at hx
      cases hx
  answered := h.answered
  held hx x hmem := by
    rcases h.back x hmem with hh | ⟨f, -, hs⟩
    · exact hh
    · rw [hs.outcome] at hx
      cases hx
  refused := hr
  failed x hmem hn := by
    rcases h.back x hmem with hh | hf
    · rw [hh] at hn
      cases hn
    · exact hf

/-- Who is not logged in is told so, whatever was to be done on the page. -/
theorem refused_within {target : Route} (ht : target.needsSession = true)
    (go : Session → Except Failure α × Session) (later : α → Console → Run)
    (hl : k.session.isLive c = false) :
    (andThen (k.within c target go) later).outcome =
      ⟨1, [], some Failure.permission.verdict⟩ := by
  rw [Console.within_of_lacks (Session.isLive_eq_false_iff.mp hl) ht]
  rfl

theorem reports_change {go : RecordScreen → Session → Except Failure α × RecordScreen × Session}
    {p : RecordScreen} {row : List Deed} {news : List Tiding}
    (h : Accounts c k.session (Failure.of? (go p k.session).1) (go p k.session).2.2 row news)
    (lines : α × RecordScreen → List String) :
    Run.Reports c k.session (andThen (change go p k) fun r k => Run.done (lines r) k) row news := by
  refine Run.reports_last ?_ lines
  rw [change, Failure.of?_map]
  exact h

/-- A command that is one act reports what the act accounts for. -/
theorem reports_single {a : Act} {r : Except Failure α × Console}
    (h : Accounts c k.session (Failure.of? r.1) r.2.session ((Desk.of k).deeds c a)
      ((Desk.of k).tidings c a)) (lines : α → List String) :
    Run.Reports c k.session (andThen r fun x k => Run.done (lines x) k)
      ((Desk.of k).trace c [a]) ((Desk.of k).news c [a]) := by
  rw [Desk.news_singleton]
  exact Run.reports_last h lines

variable (c k)

theorem accounts_records :
    Accounts c k.session (Failure.of? (k.records c).1) (k.records c).2.session
      ((Desk.of k).deeds c .records) ((Desk.of k).tidings c .records) :=
  Console.accounts_within rfl (fun s => Session.accounts_use c s (.query [])) k

theorem accounts_users :
    Accounts c k.session (Failure.of? (k.users c).1) (k.users c).2.session
      ((Desk.of k).deeds c .users) ((Desk.of k).tidings c .users) :=
  Console.accounts_within rfl (fun s => Session.accounts_use c s (.query [])) k

theorem accounts_openRecord (id : String) :
    Accounts c k.session (Failure.of? (k.openRecord c id).1) (k.openRecord c id).2.session
      ((Desk.of k).deeds c (.openRecord id)) ((Desk.of k).tidings c (.openRecord id)) :=
  Console.accounts_within rfl (RecordScreen.accounts_load c id) k

theorem accounts_openUser (id : String) :
    Accounts c k.session (Failure.of? (k.openUser c id).1) (k.openUser c id).2.session
      ((Desk.of k).deeds c (.openUser id)) ((Desk.of k).tidings c (.openUser id)) :=
  Console.accounts_within rfl (UserScreen.accounts_load c id) k

theorem accounts_newRecord (draft : RecordDraft) :
    Accounts c k.session (Failure.of? (k.newRecord c draft).1) (k.newRecord c draft).2.session
      ((Desk.of k).deeds c (.newRecord draft)) ((Desk.of k).tidings c (.newRecord draft)) :=
  Console.accounts_within rfl (Console.accounts_onward (fun r : Record => .record r.id) draft) k

theorem accounts_newUser (draft : UserDraft) :
    Accounts c k.session (Failure.of? (k.newUser c draft).1) (k.newUser c draft).2.session
      ((Desk.of k).deeds c (.newUser draft)) ((Desk.of k).tidings c (.newUser draft)) :=
  Console.accounts_within rfl (Console.accounts_onward (fun _ : User => .users) draft) k

/-- What a command does on the page of a record it reports with the opening of the page. -/
theorem reports_onRecord (id : String) (a : RecordScreen.Act)
    {go : RecordScreen → Console → Run}
    (hgo : ∀ p, Run.Reports c (k.openRecord c id).2.session (go p (k.openRecord c id).2)
      (p.deeds c (k.openRecord c id).2.session a)
      [(p.use a).tiding c (k.openRecord c id).2.session]) :
    Run.Reports c k.session (andThen (k.openRecord c id) go)
      ((Desk.of k).trace c [.openRecord id, .onRecord 0 a])
      ((Desk.of k).news c [.openRecord id, .onRecord 0 a]) := by
  rw [Desk.trace_onRecord, Desk.news_onRecord]
  exact Run.reports_andThen (accounts_openRecord c k id) fun p _ => hgo p

theorem truthful_records (cmd : RecordCommand) :
    Truthful c k cmd.acts (run c (.records cmd) k) := by
  cases cmd with
  | list =>
    exact .of_reports (reports_single (accounts_records c k) _) (refused_within rfl _ _)
  | view id =>
    exact .of_reports (reports_single (accounts_openRecord c k id) _) (refused_within rfl _ _)
  | new draft =>
    exact .of_reports (reports_single (accounts_newRecord c k draft) _) (refused_within rfl _ _)
  | setBlacklist id b =>
    refine .of_reports (reports_onRecord c k id _ fun p => ?_) (refused_within rfl _ _)
    exact reports_change (p.accounts_change c _ _ _) _
  | clearClients id =>
    refine .of_reports (reports_onRecord c k id _ fun p => ?_) (refused_within rfl _ _)
    exact reports_change (p.accounts_change c _ _ _) _
  | owner id email =>
    refine .of_reports (reports_onRecord c k id _ fun p => ?_) (refused_within rfl _ _)
    exact reports_change (p.accounts_change c _ _ _) _
  | delete id =>
    refine .of_reports (reports_onRecord c k id _ fun p => ?_) (refused_within rfl _ _)
    exact Run.reports_last (p.accounts_delete c _) _

theorem truthful_users (cmd : UserCommand) :
    Truthful c k cmd.acts (run c (.users cmd) k) := by
  cases cmd with
  | list =>
    exact .of_reports (reports_single (accounts_users c k) _) (refused_within rfl _ _)
  | view id =>
    exact .of_reports (reports_single (accounts_openUser c k id) _) (refused_within rfl _ _)
  | new draft =>
    exact .of_reports (reports_single (accounts_newUser c k draft) _) (refused_within rfl _ _)
  | password id word again =>
    refine .of_reports ?_ (refused_within rfl _ _)
    have h := Run.reports_andThen (accounts_openUser c k id) fun p _ =>
      Run.reports_submitPassword c word again p (k.openUser c id).2
    rw [Tiding.onSuccess_nil, List.nil_append] at h
    rw [UserCommand.acts, Desk.trace_password, Desk.news_password]
    exact h
  | delete id =>
    refine .of_reports ?_ (refused_within rfl _ _)
    rw [UserCommand.acts, Desk.trace_onUser_delete, Desk.news_onUser_delete]
    exact Run.reports_andThen (accounts_openUser c k id) fun p _ =>
      Run.reports_last (p.accounts_delete c _) _

/-- Every command on records and every command on users is truthful, from every console. What
comes back to a call of a collection is the failure of that call, if it fails, and from a
plain server comes what its script says; and what a command line prints is what its command
says, unless its settings cannot be loaded. -/
structure TellsTruth (c : Setup) : Prop where
  records : ∀ k (cmd : RecordCommand), Truthful c k cmd.acts (run c (.records cmd) k)
  users : ∀ k (cmd : UserCommand), Truthful c k cmd.acts (run c (.users cmd) k)
  call : ∀ (E : Type) [Entity E] (u : Use E) s, ComesBack (u.tiding c s) (u.failure? c .banner s)
  script : c.isPlain = true → Session.FollowsScript c
  line : ∀ e today words w i, Invocation.parse e words = .ok i → (runLine e today words w).1 =
    match i.settings e w.disk with
    | .error m => ⟨1, [], some m.message⟩
    | .ok config => (run (config.setup today) i.command
        (Console.start (Invocation.openSession e w config))).outcome

/-- **A command claims to have succeeded only when the server said so.** -/
theorem truthful (c : Setup) : TellsTruth c where
  records := truthful_records c
  users := truthful_users c
  call _ _ u s := Collection.comesBack_use c .banner s u
  script := Session.follows_script
  line e today words w i hi := by
    rw [runLine, hi]
    dsimp only
    rw [Invocation.run]
    cases i.settings e w.disk with
    | error m => rfl
    | ok config => rfl

/-- Who is denied is told to log in. -/
example : (run .loopback (.users .list) Console.deniedFirst).outcome =
    ⟨1, [], some "Not logged in (now at /login)"⟩ := by
  decide +kernel

end Command
end ProxyConsole
