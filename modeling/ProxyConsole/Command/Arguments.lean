/-
# The arguments of a command

The words of a command line are read from left to right. Options begin with two
hyphens and take a value, as the next word or behind an equals sign; behind two
hyphens alone everything is a plain word. A word that names a command goes down
to the options of that command, and the two options that hold everywhere may
stand at every level, of which the last counts.

Key definitions: `Level`, `Words`, `Level.scan`, `Command`, `Invocation`,
`Invocation.parse`.
-/
import ProxyConsole.Config
import ProxyConsole.Entity.Record

namespace ProxyConsole

/-- Why a command line is not carried out. -/
inductive Halt where
  /-- It is not well formed. -/
  | usage
  /-- It asks for help. -/
  | help
  /-- It asks for the version. -/
  | version
  deriving DecidableEq, Repr

/-- What may stand at a level: options, a number of plain words, and the names of
commands; the first level also takes the option that asks for the version. -/
structure Level where
  options : List String
  words : Nat
  commands : List String
  isFirst : Bool
  deriving DecidableEq, Repr

/-- What was given at a level. -/
structure Words where
  options : List (String × String)
  plain : List String
  deriving DecidableEq, Repr

namespace Words

/-- The value of an option. -/
def option? (w : Words) (name : String) : Option String :=
  (w.options.find? fun o => o.1 == name).map (·.2)

end Words

/-- A port: digits behind a sign that may be left out. -/
def portOf? (s : String) : Option UInt16 :=
  let (negative, ds) := match s.toList with
    | '-' :: ds => (true, ds)
    | '+' :: ds => (false, ds)
    | ds => (false, ds)
  match ds.mapM Decimal.digit? with
  | some (d :: ds) =>
    let n := Decimal.value (d :: ds)
    if n < 0x10000 ∧ (negative = false ∨ n = 0) then some (UInt16.ofNat n) else none
  | _ => none

namespace Level

/-- The options that hold everywhere. -/
def everywhere : List String := ["config", "server"]

/-- A word that begins like an option. -/
def isDashed (word : String) : Bool :=
  match word.toList with
  | '-' :: _ :: _ => true
  | _ => false

/-- Whether a value suits an option: a path is not empty, a port and a protocol can be
read, and any other text is as good as another. -/
def suits (name value : String) : Bool :=
  if name = "config" then value != ""
  else if name = "handler-port" then (portOf? value).isSome
  else if name = "handler-protocol" then (Protocol.parse value).isOk
  else true

/-- An option of a level with its value, which is given once. -/
def accept (name value : String) (w : Words) : Except Halt Words :=
  if (w.option? name).isSome ∨ suits name value = false then .error .usage
  else .ok { w with options := w.options ++ [(name, value)] }

/-- A plain word of a level. -/
def addWord (l : Level) (word : String) (w : Words) : Except Halt Words :=
  if w.plain.length < l.words then .ok { w with plain := w.plain ++ [word] } else .error .usage

/-- Plain words to the end of the line. -/
def addWords (l : Level) : List String → Words → Except Halt Words
  | [], w => .ok w
  | word :: words, w => do
    let w ← l.addWord word w
    l.addWords words w

/-- What a word is. -/
inductive Kind where
  /-- Two hyphens alone. -/
  | rest
  /-- An option, with the value behind an equals sign if there is one. -/
  | long (name : String) (value : Option String)
  /-- A hyphen with the letter behind it. -/
  | short (letter : Char)
  | plain
  deriving DecidableEq, Repr

/-- What a word is by its form. -/
def kind (word : String) : Kind :=
  match word.toList with
  | ['-', '-'] => .rest
  | '-' :: '-' :: cs =>
    .long (String.ofList (cs.takeWhile (· ≠ '=')))
      (match cs.dropWhile (· ≠ '=') with
        | [] => none
        | _ :: v => some (String.ofList v))
  | '-' :: c :: _ => .short c
  | _ => .plain

/-- Whether a name asks for help or for the version at a level. -/
def halt? (l : Level) (name : String) : Option Halt :=
  if name = "help" then some .help
  else if name = "version" ∧ l.isFirst then some .version
  else none

/-- The long name of a letter. -/
def longName (letter : Char) : String :=
  if letter = 'h' then "help" else if letter = 'V' then "version" else ""

/-- Reads the words of a level up to the name of a command: what was given, and that
name with the words behind it. -/
def scan (l : Level) (w : Words) :
    List String → Except Halt (Words × Option (String × List String))
  | [] => .ok (w, none)
  | word :: words =>
    match kind word with
    | .rest => (l.addWords words w).map (·, none)
    | .short c => .error ((l.halt? (longName c)).getD .usage)
    | .long name value =>
      match l.halt? name, value with
      | some h, none => .error h
      | some _, some _ => .error .usage
      | none, some v =>
        if (l.options ++ everywhere).contains name then do
          let w ← accept name v w
          scan l w words
        else .error .usage
      | none, none =>
        if (l.options ++ everywhere).contains name then
          match words with
          | [] => .error .usage
          | v :: words =>
            if isDashed v then .error .usage
            else do
              let w ← accept name v w
              scan l w words
        else .error .usage
    | .plain =>
      if l.commands.contains word then .ok (w, some (word, words))
      else do
        let w ← l.addWord word w
        scan l w words

end Level

/-- A command on records. -/
inductive RecordCommand where
  | list
  | view (id : String)
  | new (draft : RecordDraft)
  | setBlacklist (id : String) (blacklist : Bool)
  | clearClients (id : String)
  | owner (id email : String)
  | delete (id : String)
  deriving DecidableEq, Repr

/-- A command on users. -/
inductive UserCommand where
  | list
  | view (id : String)
  | new (draft : UserDraft)
  | password (id password confirmation : String)
  | delete (id : String)
  deriving DecidableEq, Repr

/-- A command. -/
inductive Command where
  | login (email password : String)
  | logout
  | status
  | info
  | records (c : RecordCommand)
  | users (c : UserCommand)
  deriving DecidableEq, Repr

/-- A command with the path of the settings and the address of the server, where
they are given. -/
structure Invocation where
  config : Option String
  server : Option String
  command : Command
  deriving DecidableEq, Repr

namespace Invocation

/-- The commands at the first level. -/
def top : Level :=
  ⟨[], 0, ["login", "logout", "status", "info", "records", "users", "help"], true⟩

/-- The level of the commands on records or on users. -/
def group (commands : List String) : Level :=
  ⟨[], 0, commands ++ ["help"], false⟩

/-- The level of a command. -/
def leaf (options : List String) (words : Nat) : Level :=
  ⟨options, words, [], false⟩

def recordCommands : List String :=
  ["list", "show", "new", "blacklist", "unblacklist", "clear-clients", "owner", "delete"]

def userCommands : List String :=
  ["list", "show", "new", "passwd", "delete"]

/-- The levels below a path of commands. -/
def level : List String → Option Level
  | [] => some top
  | ["login"] => some (leaf ["email", "password"] 0)
  | ["logout"] | ["status"] | ["info"] => some (leaf [] 0)
  | ["records"] => some (group recordCommands)
  | ["users"] => some (group userCommands)
  | ["records", "list"] | ["users", "list"] => some (leaf [] 0)
  | ["records", "new"] =>
    some (leaf ["fqdn", "handler-host", "handler-port", "handler-protocol"] 0)
  | ["records", "owner"] => some (leaf [] 2)
  | ["users", "new"] => some (leaf ["email", "password"] 0)
  | ["users", "passwd"] => some (leaf ["password", "confirm"] 1)
  | ["records", c] => if recordCommands.contains c then some (leaf [] 1) else none
  | ["users", c] => if userCommands.contains c then some (leaf [] 1) else none
  | _ => none

/-- Whether words below a path of commands, for which help is asked, name a command. -/
def helpOn (path : List String) : List String → Halt
  | [] => .help
  | ["help"] => if (level path).any (·.commands.contains "help") then .help else .usage
  | word :: words =>
    match level (path ++ [word]) with
    | some _ => helpOn (path ++ [word]) words
    | none => .usage

/-- The variable that holds a password. -/
def passwordVariable : String := "SHELLSQUID_PASSWORD"

/-- A value that has to be there. -/
def need (v : Option α) : Except Halt α :=
  match v with
  | some a => .ok a
  | none => .error .usage

/-- What a record is created from. -/
def recordDraft (w : Words) : Except Halt RecordDraft := do
  let fqdn ← need (w.option? "fqdn")
  let handlerHost ← need (w.option? "handler-host")
  let handlerPort ← need ((w.option? "handler-port").bind portOf?)
  let handlerProtocol ←
    (Protocol.parse ((w.option? "handler-protocol").getD "http")).mapError fun _ => Halt.usage
  return { fqdn, handlerHost, handlerPort, handlerProtocol }

/-- The password that is given or that a variable holds. -/
def password (e : Environment) (w : Words) : Except Halt String :=
  need ((w.option? "password").or (e.get? passwordVariable))

/-- The command at a path with what was given to it. -/
def commandOf (e : Environment) (path : List String) (w : Words) : Except Halt Command := do
  match path, w.plain with
  | ["login"], _ => return .login (← need (w.option? "email")) (← password e w)
  | ["logout"], _ => return .logout
  | ["status"], _ => return .status
  | ["info"], _ => return .info
  | ["records", "list"], _ => return .records .list
  | ["records", "new"], _ => return .records (.new (← recordDraft w))
  | ["records", "show"], [id] => return .records (.view id)
  | ["records", "blacklist"], [id] => return .records (.setBlacklist id true)
  | ["records", "unblacklist"], [id] => return .records (.setBlacklist id false)
  | ["records", "clear-clients"], [id] => return .records (.clearClients id)
  | ["records", "owner"], [id, email] => return .records (.owner id email)
  | ["records", "delete"], [id] => return .records (.delete id)
  | ["users", "list"], _ => return .users .list
  | ["users", "new"], _ =>
    return .users (.new ⟨← need (w.option? "email"), ← password e w⟩)
  | ["users", "show"], [id] => return .users (.view id)
  | ["users", "passwd"], [id] =>
    return .users (.password id (← need (w.option? "password")) (← need (w.option? "confirm")))
  | ["users", "delete"], [id] => return .users (.delete id)
  | _, _ => .error .usage

/-- Reads the words below a path of commands, with the values so far of the options
that hold everywhere; there are no more than `fuel` levels. -/
def descend (e : Environment) :
    Nat → List String → Option String → Option String → List String → Except Halt Invocation
  | 0, _, _, _, _ => .error .usage
  | fuel + 1, path, config, server, words => do
    match level path with
    | none => .error .usage
    | some l =>
      let (w, below) ← l.scan ⟨[], []⟩ words
      let config := (w.option? "config").or config
      let server := (w.option? "server").or server
      match below with
      | some ("help", words) => .error (helpOn path words)
      | some (name, words) => descend e fuel (path ++ [name]) config server words
      | none =>
        let command ← commandOf e path w
        return { config, server := server.or (e.get? Config.serverVariable), command }

/-- The invocation that a command line stands for. -/
def parse (e : Environment) (words : List String) : Except Halt Invocation :=
  descend e 3 [] none none words

end Invocation
end ProxyConsole
