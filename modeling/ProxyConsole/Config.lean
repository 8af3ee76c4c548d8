/-
# Settings

The settings are read from a file, where every one of them may be left out, and
variables of the environment come before what the file says. The file and the
token are kept in the folders that the user's environment names, or else in the
usual ones of the home folder.

Key definitions: `Environment`, `Config`, `Config.load`, `Config.override`,
`Config.resolvedTokenPath`, `Config.defaultPath`.
-/
import ProxyConsole.Session.Basic
import ProxyConsole.Toml.Document

namespace ProxyConsole

/-- The home folder of the user and the variables that are set. -/
structure Environment where
  home : String
  vars : List (String × String)
  deriving DecidableEq, Repr

namespace Environment

/-- The value of a variable. -/
def get? (e : Environment) (name : String) : Option String :=
  (e.vars.find? fun v => v.1 == name).map (·.2)

/-- The folder that a variable names, if its path begins at the root; else one in
the home folder. -/
def folder (e : Environment) (variableName usual : String) : String :=
  match e.get? variableName with
  | some p => if Path.isAbsolute p then p else Path.join e.home usual
  | none => Path.join e.home usual

/-- The name of the program's folders. -/
def programName : String := "shellsquid"

/-- Where settings are kept. -/
def configFolder (e : Environment) : String :=
  Path.join (e.folder "XDG_CONFIG_HOME" ".config") programName

/-- Where data is kept. -/
def dataFolder (e : Environment) : String :=
  Path.join (e.folder "XDG_DATA_HOME" ".local/share") programName

end Environment

/-- The settings: the address of the server, the path of the token's file (the
usual one when there is none), for how many milliseconds a success is shown, and
after how many seconds a call is given up (never when there is none). -/
structure Config where
  server : String
  tokenPath : Option String
  window : Nat
  timeout : Option Nat
  deriving DecidableEq, Repr

/-- Why settings cannot be loaded. -/
inductive ConfigError where
  /-- The file cannot be read. -/
  | unreadable (path : String)
  /-- The file holds no settings. -/
  | unparsable (path : String)
  deriving DecidableEq, Repr

namespace ConfigError

def message : ConfigError → String
  | unreadable path => "Failed to read config: " ++ path
  | unparsable path => "Failed to parse config: " ++ path

end ConfigError

namespace Config

/-- The settings when nothing is said. -/
def default : Config := ⟨"http://127.0.0.1:4443", none, 2000, none⟩

/-- The variable that names the server. -/
def serverVariable : String := "SHELLSQUID_SERVER"

/-- The variable that names the token's file. -/
def tokenVariable : String := "SHELLSQUID_TOKEN_PATH"

/-- The usual path of the settings. -/
def defaultPath (e : Environment) : String :=
  Path.join e.configFolder "config.toml"

/-- A value that is a string. -/
def string? : Toml → Option String
  | .string s => some s
  | _ => none

/-- A value that is an unsigned integer of 64 bits. -/
def count? : Toml → Option Nat
  | .integer n => if 0 ≤ n ∧ n < 0x10000000000000000 then some n.toNat else none
  | _ => none

/-- A setting of a document, none when it has a value of another form. -/
def setting (t : TomlTable) (name : String) (read : Toml → Option α) (absent : α) : Option α :=
  match t.get? name with
  | none => some absent
  | some v => read v

/-- The settings that a document holds; names that are not known do not matter. -/
def ofToml (t : TomlTable) : Option Config := do
  let server ← setting t "server_url" string? default.server
  let tokenPath ← setting t "token_path" (fun v => (string? v).map some) none
  let window ← setting t "success_message_ttl_ms" count? default.window
  let timeout ← setting t "request_timeout_secs" (fun v => (count? v).map some) none
  return { server, tokenPath, window, timeout }

/-- The settings of a file, the usual ones when there is no file. -/
def loadFrom (d : Disk) (path : String) : Except ConfigError Config :=
  match d.read path with
  | .error .isFolder => .error (.unreadable path)
  | .error _ => .ok default
  | .ok bs => match Utf8.decode bs with
    | none => .error (.unreadable path)
    | some cs => match (TomlDocument.read cs).bind ofToml with
      | none => .error (.unparsable path)
      | some c => .ok c

/-- The value of a variable without blank characters at its ends, unless nothing is
left. -/
def given (lookup : String → Option String) (name : String) : Option String :=
  (lookup name).bind fun v => if Text.isBlankText v then none else some (Text.trimmed v)

/-- The settings with what variables say in place of their own. -/
def override (lookup : String → Option String) (c : Config) : Config :=
  { c with
    server := (given lookup serverVariable).getD c.server
    tokenPath := (given lookup tokenVariable).or c.tokenPath }

/-- The settings of a file, or of the usual one, with what the environment says. -/
def load (e : Environment) (d : Disk) (path : Option String) : Except ConfigError Config :=
  (loadFrom d (path.getD (defaultPath e))).map (override e.get?)

/-- The path of the token's file. -/
def resolvedTokenPath (e : Environment) (c : Config) : String :=
  match c.tokenPath with
  | some p => Path.expand e.home p
  | none => Path.join e.dataFolder slotName

/-- What stays the same while a session runs with these settings. -/
def setup (today : Int64) (c : Config) : Setup :=
  ⟨c.server, some c.window, c.timeout, today⟩

end Config
end ProxyConsole
