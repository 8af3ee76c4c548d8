/-
# Which server a command line works with

A server that is named on the line comes first, then what the variable says, and last what
the file says. The variable is looked at twice. When the settings are loaded, what it says is
trimmed, and does not count when nothing is left; on the line it counts as it stands, and
takes the place of what was loaded. So a line that names no server works with the one that is
loaded exactly when the variable is not set, or says something trimmed, or something blank
that the file says as well.

Key definitions: `Environment.without`, `Invocation.within`, `Config.serverGiven`,
`Invocation.Precedence`.
Key theorems: `Invocation.parse_without`, `Config.server_override`,
`Config.eq_serverGiven_iff`, `Invocation.server_precedence`.
-/
import ProxyConsole.Command.Run

namespace ProxyConsole

/-! ### A variable that is not set -/

namespace Environment

/-- The environment in which a variable is not set. -/
def without (e : Environment) (name : String) : Environment :=
  { e with vars := e.vars.filter fun v => v.1 != name }

theorem get?_without (e : Environment) (name other : String) :
    (e.without name).get? other = if other = name then none else e.get? other := by
  unfold get? without
  rw [List.find?_filter]
  split
  · next h =>
    rw [h, Option.map_eq_none_iff, List.find?_eq_none]
    simp
  · next h =>
    congr 2
    funext v
    by_cases hv : v.1 = other
    · simp [hv, h]
    · simp [hv]

end Environment

namespace Invocation

open Config (serverVariable)

/-- What a line stands for in an environment: what the variable says is the server, if the
line names none. -/
def within (e : Environment) (i : Invocation) : Invocation :=
  { i with server := i.server.or (e.get? serverVariable) }

/-- No command looks at the variable that names the server. -/
theorem commandOf_without (e : Environment) (path : List String) (w : Words) :
    commandOf (e.without serverVariable) path w = commandOf e path w := by
  have hne : passwordVariable ≠ serverVariable := by decide
  have hpassword : password (e.without serverVariable) w = password e w := by
    rw [password, password, Environment.get?_without, if_neg hne]
  unfold commandOf
  simp only [hpassword]

theorem descend_without (e : Environment) : ∀ (fuel : Nat) (path : List String)
    (config server : Option String) (words : List String),
    descend e fuel path config server words =
      (descend (e.without serverVariable) fuel path config server words).map (within e)
  | 0, _, _, _, _ => rfl
  | fuel + 1, path, config, server, words => by
    rw [descend, descend]
    cases level path with
    | none => rfl
    | some l =>
      dsimp only
      cases l.scan ⟨[], []⟩ words with
      | error halt => rfl
      | ok x =>
        obtain ⟨w, below⟩ := x
        simp only [bind, Except.bind]
        split
        · rfl
        · exact descend_without e fuel _ _ _ _
        -- the words end here, and what the variable says is put in
        · rw [commandOf_without, Environment.get?_without, if_pos rfl, Option.or_none]
          cases commandOf e path w with
          | error halt => rfl
          | ok command => rfl

/-- **What the variable says stands for the server that a line does not name**, as it is, and
it changes nothing else of what the line stands for. -/
theorem parse_without (e : Environment) (words : List String) :
    parse e words = (parse (e.without serverVariable) words).map (within e) :=
  descend_without e 3 [] none none words

end Invocation

/-! ### The server that is loaded -/

namespace Config

/-- The server that holds where the file names one and the variable says something or not:
what the variable says is trimmed, and does not count when it is blank. -/
def serverGiven (file : String) : Option String → String
  | none => file
  | some v => if Text.isBlankText v then file else Text.trimmed v

theorem server_override (lookup : String → Option String) (file : Config) :
    (override lookup file).server = serverGiven file.server (lookup serverVariable) := by
  unfold override given
  cases lookup serverVariable with
  | none => rfl
  | some v =>
    rw [serverGiven, Option.bind_some]
    split
    · rfl
    · rfl

theorem with_server_eq_self {c : Config} {server : String} :
    { c with server } = c ↔ server = c.server :=
  ⟨fun h => congrArg Config.server h, fun h => by rw [h]⟩

/-- What the variable says is what holds exactly when it is trimmed, or is blank and the
file says the same. -/
theorem eq_serverGiven_iff {file v : String} :
    v = serverGiven file (some v) ↔
      if Text.isBlankText v = true then v = file else Text.trimmed v = v := by
  rw [serverGiven]
  split
  · exact Iff.rfl
  · exact eq_comm

end Config

/-! ### The server that is worked with -/

namespace Invocation

open Config (serverVariable)

theorem settings_of_load {e : Environment} {d : Disk} {i : Invocation} {loaded : Config}
    (h : Config.load e d i.config = .ok loaded) :
    i.settings e d = .ok { loaded with server := i.server.getD loaded.server } := by
  rw [settings, h]
  rfl

/-- The settings that a line comes to, where `i` is what the line stands for by itself and
`file` is what the file says. They are those that are loaded but for the server. Where the
line names no server they are those exactly when the variable says nothing that trimming
changes, and nothing blank that the file does not say. -/
structure Precedence (e : Environment) (d : Disk) (file : Config) (i : Invocation) : Prop where
  loads : Config.load e d i.config = .ok (Config.override e.get? file)
  given : (Config.override e.get? file).server =
    Config.serverGiven file.server (e.get? serverVariable)
  settles : (i.within e).settings e d = .ok { Config.override e.get? file with
    server := (i.server.or (e.get? serverVariable)).getD file.server }
  agrees_iff : i.server = none →
    ((i.within e).settings e d = Config.load e d i.config ↔
      ∀ v, e.get? serverVariable = some v →
        if Text.isBlankText v = true then v = file.server else Text.trimmed v = v)

theorem precedence {e : Environment} {d : Disk} {i : Invocation} {file : Config}
    (hfile : Config.loadFrom d (i.config.getD (Config.defaultPath e)) = .ok file) :
    Precedence e d file i := by
  have hload : Config.load e d i.config = .ok (Config.override e.get? file) := by
    rw [Config.load, hfile]
    rfl
  have hgiven := Config.server_override e.get? file
  have hserver : (i.within e).server.getD (Config.override e.get? file).server =
      (i.server.or (e.get? serverVariable)).getD file.server := by
    rw [hgiven, within]
    cases i.server with
    | some named => rfl
    | none => cases e.get? serverVariable <;> rfl
  have hsettings := settings_of_load (i := i.within e) hload
  rw [hserver] at hsettings
  refine ⟨hload, hgiven, hsettings, fun hn => ?_⟩
  rw [hsettings, hload, hn, Option.none_or, Except.ok.injEq, Config.with_server_eq_self, hgiven]
  cases e.get? serverVariable with
  | none => exact iff_of_true rfl (by rintro v ⟨⟩)
  | some v =>
    simp only [Option.getD_some, Option.some.injEq, forall_eq']
    exact Config.eq_serverGiven_iff

/-- **Which server a command line works with**, whatever it says and whatever is set. -/
theorem server_precedence {e : Environment} {d : Disk} {words : List String} {i : Invocation}
    {file : Config} (hline : parse (e.without serverVariable) words = .ok i)
    (hfile : Config.loadFrom d (i.config.getD (Config.defaultPath e)) = .ok file) :
    parse e words = .ok (i.within e) ∧ Precedence e d file i := by
  refine ⟨?_, precedence hfile⟩
  rw [parse_without, hline]
  rfl

/-- An environment whose variable says nothing but blanks. -/
def blankNamed : Environment := ⟨"/home/u", [(serverVariable, "   ")]⟩

/-- Without a file, a line that names no server works with the blanks. -/
theorem server_precedence_blank :
    parse blankNamed ["status"] = .ok ⟨none, some "   ", .status⟩ ∧
      Precedence blankNamed .empty .default ⟨none, none, .status⟩ :=
  server_precedence (e := blankNamed) (i := ⟨none, none, .status⟩) (by rfl) (by rfl)

/-- The blanks take the place of the usual server, which is loaded. -/
theorem blank_server :
    (Config.load blankNamed .empty none).toOption.map (·.server) = some "http://127.0.0.1:4443" ∧
    (((parse blankNamed ["status"]).toOption.bind fun i =>
      (i.settings blankNamed .empty).toOption).map (·.server)) = some "   " := by
  decide +kernel

end Invocation
end ProxyConsole
