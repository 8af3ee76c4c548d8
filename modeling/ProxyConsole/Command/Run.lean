/-
# What commands do and print

A command opens a console over the file of the token and prints what comes of
it. It ends with status 0 when all went well, with 1 and a message when
something failed, and with 2 when the command line is not well formed.

Key definitions: `Outcome`, `Command.run`, `Invocation.run`, `runLine`.
-/
import ProxyConsole.Console
import ProxyConsole.Command.Arguments

namespace ProxyConsole

/-- How a command ended: its status, the lines that it printed, and a message. -/
structure Outcome where
  exit : Nat
  lines : List String
  message : Option String
  deriving DecidableEq, Repr

/-- What a run prints, with its message if it fails, and the console after it. -/
abbrev Run := List String × Option String × Console

namespace Run

/-- A run that went well. -/
def done (lines : List String) (k : Console) : Run := (lines, none, k)

/-- A run that failed. -/
def fail (message : String) (k : Console) : Run := ([], some message, k)

/-- How a run ended. -/
def outcome (r : Run) : Outcome :=
  ⟨if r.2.1.isSome then 1 else 0, r.1, r.2.1⟩

end Run

namespace Report

/-- A truth value as it is printed. -/
def flag (b : Bool) : String := if b then "true" else "false"

/-- A line for a record. -/
def record (r : Record) : String :=
  r.id ++ "  " ++ r.fqdn ++ "  -> " ++ r.handlerProtocol.text ++ "://" ++ r.handlerHost ++ ":" ++
    Decimal.intString r.handlerPort.toNat ++ "  owner=" ++ r.owner.email ++ "  blacklist=" ++
    flag r.blacklist ++ "  clients=" ++ Decimal.intString r.clients.length

/-- A line for a user. -/
def user (u : User) : String :=
  u.id ++ "  " ++ u.email

/-- A text with spaces behind it up to a width. -/
def padded (width : Nat) (s : String) : String :=
  s ++ String.ofList (List.replicate (width - s.length) ' ')

/-- A line for a listener. -/
def listener (name : String) (l : Listener) : String :=
  "  " ++ padded 5 name ++ " " ++ padded 9 (if l.enabled then "enabled" else "disabled") ++ " " ++
    l.address

/-- The lines for what the server tells of itself. -/
def info (i : ServerInfo) : List String :=
  ["shellsquid " ++ i.version, listener "ssl" i.proxy.ssl, listener "http" i.proxy.http]

/-- The message for a failure: what the user is told of it. -/
def failure (f : Failure) (k : Console) : String :=
  if f.isPermission then "Not logged in (now at " ++ k.session.route.path ++ ")"
  else k.session.notices.error.getD f.message

end Report

namespace Command

variable (c : Setup)

/-- Goes on with the result of an operation, or fails with its message. -/
def andThen (r : Except Failure α × Console) (go : α → Console → Run) : Run :=
  match r with
  | (.ok a, k) => go a k
  | (.error f, k) => Run.fail (Report.failure f k) k

/-- Does something in the session of a console. -/
def inSession (go : Session → Except Failure α × Session) (k : Console) :
    Except Failure α × Console :=
  let r := go k.session
  (r.1, { k with session := r.2 })

/-- Changes the record of a page that was opened. -/
def change (go : RecordScreen → Session → Except Failure α × RecordScreen × Session)
    (p : RecordScreen) (k : Console) : Except Failure (α × RecordScreen) × Console :=
  let r := go p k.session
  (r.1.map (·, r.2.1), { k with session := r.2.2 })

/-- The lines for the page of a record. -/
def recordPage (p : RecordScreen) : List String :=
  Report.record p.record ::
    ((if p.owner.isNone then
        ["  owner " ++ p.record.owner.id ++ " no longer resolves to a user"]
      else []) ++ p.record.clients.map ("  client " ++ ·))

/-- Carries out a command on records. -/
def runRecords (cmd : RecordCommand) (k : Console) : Run :=
  match cmd with
  | .list => andThen (k.records c) fun rs k => Run.done (rs.map Report.record) k
  | .view id => andThen (k.openRecord c id) fun p k => Run.done (recordPage p) k
  | .new draft => andThen (k.newRecord c draft) fun r k => Run.done ["Created " ++ r.path] k
  | .setBlacklist id b =>
    andThen (k.openRecord c id) fun p k =>
      andThen (change (fun p => p.setBlacklist c b) p k) fun r k =>
        Run.done [Report.record r.2.record] k
  | .clearClients id =>
    andThen (k.openRecord c id) fun p k =>
      andThen (change (fun p => p.clearClients c) p k) fun _ k =>
        Run.done ["Cleared clients of " ++ id] k
  | .owner id email =>
    andThen (k.openRecord c id) fun p k =>
      andThen (change (fun p => p.saveOwner c email) p k) fun r k =>
        Run.done ((if r.1 then [] else ["No user with email " ++ email ++ "; owner unchanged"]) ++
          [Report.record r.2.record]) k
  | .delete id =>
    andThen (k.openRecord c id) fun p k =>
      andThen (inSession (p.delete c) k) fun _ k => Run.done ["Deleted " ++ id] k

/-- Sends a new password by the form of a user's page. -/
def submitPassword (password confirmation : String) (p : UserScreen) (k : Console) : Run :=
  let r := (p.fill password confirmation).submitPassword c k.session
  let k := { k with session := r.2 }
  match r.1.error with
  | some message => Run.fail message k
  | none => Run.done r.1.success.toList k

/-- Carries out a command on users. -/
def runUsers (cmd : UserCommand) (k : Console) : Run :=
  match cmd with
  | .list => andThen (k.users c) fun us k => Run.done (us.map Report.user) k
  | .view id =>
    andThen (k.openUser c id) fun p k =>
      Run.done (Report.user p.user :: p.records.map Report.record) k
  | .new draft =>
    andThen (k.newUser c draft) fun r k => Run.done ["Created user (" ++ r.path ++ ")"] k
  | .password id password confirmation =>
    andThen (k.openUser c id) (submitPassword c password confirmation)
  | .delete id =>
    andThen (k.openUser c id) fun p k =>
      andThen (inSession (p.delete c) k) fun _ k => Run.done ["Deleted user " ++ id] k

/-- The lines for a live session. -/
def statusLines (k : Console) : List String :=
  ("Logged in to " ++ c.server) ::
    (match (k.session.current c).bind Token.expiresAt with
      | some t => ["Session expires " ++ t]
      | none => []) ++
    (match k.info with
      | some i => Report.info i
      | none => [])

/-- Carries out a command. -/
def run (cmd : Command) (k : Console) : Run :=
  match cmd with
  | .login email password =>
    match k.login c email password with
    | (.ok r, k) => Run.done ["Logged in as " ++ email ++ " (" ++ r.path ++ ")"] k
    | (.error message, k) => Run.fail message k
  | .logout => Run.done ["Logged out"] (k.logout c).2
  | .status =>
    match k.checkLive c with
    | (true, k) => Run.done (statusLines c k) k
    | (false, k) => Run.done ["Not logged in"] k
  | .info =>
    match k.checkLive c with
    | (true, k) => match k.info with
      | some i => Run.done (Report.info i) k
      | none => Run.fail "Server info unavailable" k
    | (false, k) => Run.fail "Not logged in" k
  | .records cmd => runRecords c cmd k
  | .users cmd => runUsers c cmd k

end Command

/-- What commands work on: the disk and the server. -/
structure Surroundings where
  disk : Disk
  server : Server
  deriving Repr

namespace Invocation

/-- The settings of an invocation: the server that is named comes before all. -/
def settings (e : Environment) (d : Disk) (i : Invocation) : Except ConfigError Config := do
  let config ← Config.load e d i.config
  return { config with server := i.server.getD config.server }

/-- The session over the file of the token. -/
def openSession (e : Environment) (w : Surroundings) (config : Config) : Session :=
  Session.start (.file ⟨config.resolvedTokenPath e, false, w.disk⟩) w.server

/-- What is left of a session once a command has ended. -/
def surroundings (s : Session) (d : Disk) : Surroundings :=
  ⟨match s.slot with
    | .file f => f.disk
    | .memory _ => d, s.server⟩

/-- Carries out an invocation. -/
def run (e : Environment) (today : Int64) (i : Invocation) (w : Surroundings) :
    Outcome × Surroundings :=
  match i.settings e w.disk with
  | .error m => (⟨1, [], some m.message⟩, w)
  | .ok config =>
    let r := i.command.run (config.setup today) (Console.start (openSession e w config))
    (Run.outcome r, surroundings r.2.2.session w.disk)

end Invocation

/-- The name and version of the program. -/
def versionLine : String := "squidctl 0.1.0"

/-- The line that says how the program is used. -/
def usageLine : String := "Usage: squidctl [OPTIONS] <COMMAND>"

/-- Carries out a command line. -/
def runLine (e : Environment) (today : Int64) (words : List String) (w : Surroundings) :
    Outcome × Surroundings :=
  match Invocation.parse e words with
  | .error .version => (⟨0, [versionLine], none⟩, w)
  | .error .help => (⟨0, [usageLine], none⟩, w)
  | .error .usage => (⟨2, [], some usageLine⟩, w)
  | .ok i => i.run e today w

end ProxyConsole
