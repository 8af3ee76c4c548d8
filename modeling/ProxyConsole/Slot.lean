/-
# The slot of the session token

One token at most is kept, in memory or in a file. A file holds the token with
or without blank characters around it, and a file of nothing else holds none. A
slot whose file could not be cleared counts as empty until a token is saved.

Key definitions: `FileSlot`, `Slot`, `Slot.load`, `Slot.save`, `Slot.clear`.
Key theorem: `Slot.load_clear`.
-/
import ProxyConsole.Disk
import ProxyConsole.Text.Blank
import ProxyConsole.Text.Utf8

namespace ProxyConsole

/-- The name of the file of a slot. -/
def slotName : String := "token"

/-- A slot in a file, with the disk that the file is on. -/
structure FileSlot where
  path : String
  /-- The slot counts as empty whatever the file holds. -/
  cleared : Bool
  disk : Disk
  deriving DecidableEq, Repr

namespace FileSlot

/-- The token that some bytes hold. -/
def tokenOf (bs : List UInt8) : Option String :=
  match Utf8.decode bs with
  | none => none
  | some cs =>
    let t := Text.trim cs
    if t.isEmpty then none else some (String.ofList t)

/-- The token that is kept. -/
def load (f : FileSlot) : Option String :=
  if f.cleared then none
  else match f.disk.read f.path with
    | .ok bs => tokenOf bs
    | .error _ => none

/-- The folder around the file. -/
def folder (f : FileSlot) : String :=
  Path.folder f.path

/-- Keeps a token, in a folder that is made where it is missing. -/
def save (token : String) (f : FileSlot) : Except DiskError Unit × FileSlot :=
  let r := f.disk.tryFolders f.folder
  match r.1 with
  | .error e => (.error e, { f with disk := r.2 })
  | .ok () =>
    match r.2.write f.path (Utf8.bytes token) with
    | .error e => (.error e, { f with disk := r.2 })
    | .ok d => (.ok (), { f with cleared := false, disk := d })

/-- Keeps no token any more. -/
def clear (f : FileSlot) : FileSlot :=
  match f.disk.remove f.path with
  | .ok d => { f with disk := d }
  | .error .missing => f
  | .error _ =>
    match f.disk.write f.path [] with
    | .ok d => { f with disk := d }
    | .error _ => { f with cleared := true }

end FileSlot

/-- A slot for a token. -/
inductive Slot where
  | memory (token : Option String)
  | file (f : FileSlot)
  deriving DecidableEq, Repr

namespace Slot

/-- The token that is kept. -/
def load : Slot → Option String
  | memory t => t
  | file f => f.load

/-- Keeps a token; when that fails, the slot goes on with what it kept. -/
def save (token : String) : Slot → Except DiskError Unit × Slot
  | memory _ => (.ok (), memory (some token))
  | file f =>
    let r := f.save token
    (r.1, file r.2)

/-- Keeps no token any more. -/
def clear : Slot → Slot
  | memory _ => memory none
  | file f => file f.clear

end Slot

namespace FileSlot

theorem tokenOf_nil : tokenOf [] = none := by
  decide +kernel

/-- A slot whose file holds no token holds none. -/
theorem load_eq_none {f : FileSlot} (h : ∀ bs, f.disk.read f.path = .ok bs → tokenOf bs = none) :
    f.load = none := by
  unfold load
  split
  · rfl
  · split
    · next bs hr => exact h bs hr
    · rfl

/-- A slot that was cleared holds no token. -/
theorem load_clear (f : FileSlot) : f.clear.load = none := by
  unfold clear
  split
  · next d hd => exact load_eq_none fun bs hr => absurd hr (Disk.read_remove hd bs)
  · next hd =>
    refine load_eq_none fun bs hr => ?_
    simp only [Disk.remove, Disk.read, bind, Except.bind] at hd hr
    split at hd
    · next ht =>
      rw [ht] at hr
      cases hr
    · next t ht =>
      rw [ht] at hr
      simp only at hr
      rw [hr] at hd
      cases hd
  · split
    · next d hd =>
      refine load_eq_none fun bs hr => ?_
      rw [Disk.read_write hd hr]
      exact tokenOf_nil
    · simp [load]

end FileSlot

/-- A slot that was cleared holds no token. -/
theorem Slot.load_clear : ∀ s : Slot, s.clear.load = none
  | .memory _ => rfl
  | .file f => FileSlot.load_clear f

end ProxyConsole
