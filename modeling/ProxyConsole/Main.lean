/-
# The program

Reads the settings and the token of the user, carries out the command line, and
writes the token back. No transport is linked: calls end as they do when no
server answers.

Key definition: `main`.
-/
import ProxyConsole.Command.Run
import Std.Time.DateTime.Timestamp

namespace ProxyConsole
namespace Program

/-- The variables that the program knows. -/
def variableNames : List String :=
  ["XDG_CONFIG_HOME", "XDG_DATA_HOME", Config.serverVariable, Config.tokenVariable,
    Invocation.passwordVariable]

/-- The environment of the program. -/
def environment : IO Environment := do
  let home ← IO.getEnv "HOME"
  let values ← variableNames.mapM fun v => do return (v, ← IO.getEnv v)
  return ⟨home.getD "", values.filterMap fun v => v.2.map (v.1, ·)⟩

/-- The disk with what stands at a path. -/
def load (path : String) (d : Disk) : IO Disk := do
  try
    let bytes ← IO.FS.readBinFile path
    let r := do (← d.makeFolders (Path.folder path)).write path bytes.toList
    return r.toOption.getD d
  catch
    | .inappropriateType _ 21 _ => return (d.makeFolders path).toOption.getD d
    | _ => return d

/-- Makes what stands at a path like what stands on the disk. -/
def store (path : String) (old new : Disk) : IO Unit := do
  let after := (new.read path).toOption
  if after = (old.read path).toOption then return
  match after with
  | some bytes =>
    if Path.folder path ≠ "" then IO.FS.createDirAll (Path.folder path)
    IO.FS.writeBinFile path ⟨bytes.toArray⟩
  | none => IO.FS.removeFile path

/-- The paths of the settings and of the token for a command line. -/
def paths (e : Environment) (words : List String) (d : Disk) : List String :=
  match Invocation.parse e words with
  | .error _ => []
  | .ok i =>
    let config := i.config.getD (Config.defaultPath e)
    match i.settings e d with
    | .error _ => [config]
    | .ok c => [config, c.resolvedTokenPath e]

/-- Carries out a command line. -/
def run (words : List String) (today : Int64) : IO UInt32 := do
  let e ← environment
  let first ← (paths e words Disk.empty).foldlM (fun d p => load p d) Disk.empty
  let all := paths e words first
  let disk ← all.foldlM (fun d p => load p d) Disk.empty
  let (outcome, after) := runLine e today words ⟨disk, ⟨false, [], []⟩⟩
  for p in all do
    store p disk after.disk
  for l in outcome.lines do
    IO.println l
  if let some m := outcome.message then
    IO.eprintln (if outcome.exit = 1 then "Error: " ++ m else m)
  return UInt32.ofNat outcome.exit

end Program
end ProxyConsole

def main (words : List String) : IO UInt32 := do
  let now ← Std.Time.Timestamp.now
  ProxyConsole.Program.run words (Int64.ofInt now.toSecondsSinceUnixEpoch.val)
