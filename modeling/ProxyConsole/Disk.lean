/-
# Files and folders

A disk holds files and folders at places. An operation goes to the end of a path
and fails at the first step that cannot be made: out of what is missing or is no
folder, or by a name that is too long.

Key definitions: `Disk`, `Disk.read`, `Disk.write`, `Disk.remove`, `Disk.tryFolders`.
Key theorems: `Disk.read_remove`, `Disk.read_write`.
-/
import ProxyConsole.Place
import ProxyConsole.Number.Decimal

namespace ProxyConsole

/-- What can stand at a place. -/
inductive Entry where
  | file (bytes : List UInt8)
  | folder
  deriving DecidableEq, Repr

/-- Why an operation on a disk fails. -/
inductive DiskError where
  | missing
  | occupied
  | notFolder
  | isFolder
  | tooLong
  /-- The path holds a character that no name can hold. -/
  | unnameable
  deriving DecidableEq, Repr

namespace DiskError

/-- The reason with the number by which the operating system knows it. -/
def numbered (reason : String) (code : Nat) : String :=
  reason ++ " (os error " ++ Decimal.intString code ++ ")"

def message : DiskError → String
  | missing => numbered "No such file or directory" 2
  | occupied => numbered "File exists" 17
  | notFolder => numbered "Not a directory" 20
  | isFolder => numbered "Is a directory" 21
  | tooLong => numbered "File name too long" 36
  | unnameable => "file name contained an unexpected NUL byte"

end DiskError

/-- What stands on a disk, and where. -/
structure Disk where
  entries : List (Place × Entry)
  deriving DecidableEq, Repr

namespace Disk

def empty : Disk := ⟨[]⟩

/-- What stands at a place; at the start of every walk there is a folder. -/
def stands? (d : Disk) (p : Place) : Option Entry :=
  if p.isStart then some .folder else (d.entries.find? fun e => e.1 == p).map (·.2)

/-- Takes away what stands at a place. -/
def erase (p : Place) (d : Disk) : Disk :=
  ⟨d.entries.filter fun e => !(e.1 == p)⟩

/-- Puts something at a place. -/
def put (p : Place) (e : Entry) (d : Disk) : Disk :=
  ⟨(p, e) :: (d.erase p).entries⟩

/-- Takes away a place with all that is within it. -/
def eraseAll (p : Place) (d : Disk) : Disk :=
  ⟨d.entries.filter fun e => !p.isWithin e.1⟩

theorem stands?_put {p : Place} (hp : p.isStart = false) (e : Entry) (d : Disk) (q : Place) :
    (d.put p e).stands? q = if q = p then some e else d.stands? q := by
  unfold stands? put
  by_cases hq : q = p
  · subst hq
    simp [hp]
  · rw [if_neg hq]
    split
    · rfl
    · rw [List.find?_cons_of_neg (by simpa using fun h => hq h.symm)]
      congr 1
      unfold erase
      rw [List.find?_filter]
      congr 1
      funext x
      by_cases hx : x.1 = q
      · simp [hx, hq]
      · simp [hx]

theorem stands?_erase {p : Place} (hp : p.isStart = false) (d : Disk) (q : Place) :
    (d.erase p).stands? q = if q = p then none else d.stands? q := by
  unfold stands? erase
  by_cases hq : q = p
  · subst hq
    simp [hp]
  · rw [if_neg hq]
    split
    · rfl
    · congr 1
      rw [List.find?_filter]
      congr 1
      funext x
      by_cases hx : x.1 = q
      · simp [hx, hq]
      · simp [hx]

/-- The greatest lengths of a name and of a path, in bytes. -/
def maxName : Nat := 255

@[inherit_doc maxName]
def maxPath : Nat := 4095

/-- What keeps a step from being made. -/
def obstacle? (d : Disk) (s : Place × String) : Option DiskError :=
  match d.stands? s.1 with
  | some .folder => if maxName < s.2.utf8ByteSize then some .tooLong else none
  | some (.file _) => some .notFolder
  | none => some .missing

/-- Makes the steps of a trail. -/
def walk (d : Disk) (t : Trail) : Except DiskError Unit :=
  match t.steps.findSome? d.obstacle? with
  | some e => .error e
  | none => .ok ()

/-- The trail of a path that can be a path. -/
def trail (path : String) : Except DiskError Trail :=
  if path.toList.contains '\x00' then .error .unnameable
  else if path.isEmpty then .error .missing
  else if maxPath < path.utf8ByteSize then .error .tooLong
  else .ok (Trail.ofText path)

/-- The bytes of the file at the end of a trail. -/
def find (d : Disk) (t : Trail) : Except DiskError (List UInt8) := do
  d.walk t
  match d.stands? t.goal with
  | some (.file bs) => if t.ending = .name then .ok bs else .error .notFolder
  | some .folder => .error .isFolder
  | none => .error .missing

/-- The bytes of a file. -/
def read (d : Disk) (path : String) : Except DiskError (List UInt8) := do
  d.find (← trail path)

/-- Writes a file, in place of one that may be there. -/
def write (path : String) (bs : List UInt8) (d : Disk) : Except DiskError Disk := do
  let t ← trail path
  d.walk t
  if t.ending = .name ∧ d.stands? t.goal ≠ some .folder then .ok (d.put t.goal (.file bs))
  else .error .isFolder

/-- Removes a file. -/
def remove (path : String) (d : Disk) : Except DiskError Disk := do
  let t ← trail path
  let _ ← d.find t
  .ok (d.erase t.goal)

/-- Makes the folders that steps lead to, where nothing stands, up to a step that cannot
be made; what was made before it stays. Folders are looked for from the end of the path, so
that a file is in the way of the last step, and of any step behind a folder that was
`made`. -/
def makeSteps (made : Bool) : List (Place × String) → Disk → Except DiskError Unit × Disk
  | [], d => (.ok (), d)
  | s :: ss, d =>
    match d.obstacle? s with
    | some e => (.error e, d)
    | none =>
      match d.stands? (s.1.step s.2) with
      | some .folder => makeSteps made ss d
      | some (.file _) => (.error (if made || ss.isEmpty then .occupied else .notFolder), d)
      | none => makeSteps true ss (d.put (s.1.step s.2) .folder)

/-- Makes the folder at the end of a path and those on the way to it, where they are
missing, as far as that goes. -/
def tryFolders (path : String) (d : Disk) : Except DiskError Unit × Disk :=
  if path.isEmpty then (.ok (), d)
  else match trail path with
    | .error e => (.error e, d)
    | .ok t => makeSteps false t.steps d

/-- The disk with the folder at the end of a path and those on the way to it. -/
def makeFolders (path : String) (d : Disk) : Except DiskError Disk :=
  (d.tryFolders path).1.map fun _ => (d.tryFolders path).2

/-! ### Reading after a change -/

/-- What was found is a file at the end of the trail. -/
theorem stands?_of_find {d : Disk} {t : Trail} {bs : List UInt8} (h : d.find t = .ok bs) :
    d.stands? t.goal = some (.file bs) := by
  simp only [find, bind, Except.bind] at h
  split at h
  · cases h
  · split at h
    · next b hs =>
      split at h
      · rw [hs, Except.ok.inj h]
      · cases h
    · cases h
    · cases h

/-- A file that was removed cannot be read. -/
theorem read_remove {path : String} {d e : Disk} (h : d.remove path = .ok e) (bs : List UInt8) :
    e.read path ≠ .ok bs := by
  simp only [remove, read, bind, Except.bind] at h ⊢
  split at h
  · cases h
  · next t ht =>
    split at h
    · cases h
    · next old hf =>
      cases h
      intro hr
      have hs := stands?_of_find hr
      have old := stands?_of_find hf
      have start : t.goal.isStart = false := by
        cases hg : t.goal.isStart with
        | false => rfl
        | true => simp [stands?, hg] at old
      rw [stands?_erase start, if_pos rfl] at hs
      cases hs

/-- What was written is what can be read. -/
theorem read_write {path : String} {bs cs : List UInt8} {d e : Disk} (h : d.write path bs = .ok e)
    (hr : e.read path = .ok cs) : cs = bs := by
  simp only [write, read, bind, Except.bind] at h hr
  split at h
  · cases h
  · next t ht =>
    split at h
    · cases h
    · split at h
      · next hc =>
        cases h
        rw [ht] at hr
        have hs := stands?_of_find hr
        have start : t.goal.isStart = false := by
          cases hg : t.goal.isStart with
          | false => rfl
          | true => exact absurd (by simp [stands?, hg]) hc.2
        rw [stands?_put start, if_pos rfl] at hs
        cases hs
        rfl
      · cases h

end Disk
end ProxyConsole
