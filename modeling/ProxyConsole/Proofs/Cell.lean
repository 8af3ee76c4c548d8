/-
# A slot in a file is one cell that lasts

Whatever stands on the disk when a slot is opened, and whatever is saved, loaded and
cleared from then on, the slot holds what the last turn left that changed it: the text
that was saved, without blank characters at its ends, or nothing when the slot was
cleared or the text was blank. Before any such turn it holds the text of the file. A
slot that is opened anew on the same path holds the same.

A slot counts as cleared only while nothing can be read at its path; a file that can
be written can be removed, so it never has to be emptied instead.

Key definitions: `FileSlot.Turn`, `FileSlot.after`, `FileSlot.left`.
Key theorems: `FileSlot.clear_cases`, `FileSlot.load_opened_after`, `FileSlot.load_after`,
`FileSlot.one_cell`.
-/
import ProxyConsole.Proofs.Slot
import ProxyConsole.Proofs.Trim

namespace ProxyConsole

namespace Text

/-- A text without the blank characters at its ends, none when nothing is left. -/
def content? (s : String) : Option String :=
  if isBlankText s then none else some (trimmed s)

end Text

namespace FileSlot

/-! ### Turns and what they leave -/

/-- What can be done with a slot. -/
inductive Turn where
  | save (token : String)
  | load
  | clear
  deriving DecidableEq, Repr

/-- The slot of a path, as it is opened on a disk. -/
def opened (path : String) (d : Disk) : FileSlot :=
  ⟨path, false, d⟩

/-- The slot after a turn. -/
def does (f : FileSlot) : Turn → FileSlot
  | .save token => (f.save token).2
  | .load => f
  | .clear => f.clear

/-- The slot after the turns so far, the latest first. -/
def after (f : FileSlot) : List Turn → FileSlot
  | [] => f
  | x :: past => (f.after past).does x

/-- The text of the file, none when there is no file or no text in it. -/
def written (f : FileSlot) : Option String :=
  match f.disk.read f.path with
  | .ok bs => (Utf8.toString? bs).bind Text.content?
  | .error _ => none

/-- What is left by the last turn that saved a text or cleared the slot, or at first. A text
is saved when the slot can be written. -/
def left (f : FileSlot) : List Turn → Option String
  | [] => f.written
  | .save token :: past =>
    if (f.after past).IsWritable then Text.content? token else f.left past
  | .load :: past => f.left past
  | .clear :: _ => none

theorem tokenOf_eq (bs : List UInt8) : tokenOf bs = (Utf8.toString? bs).bind Text.content? := by
  unfold tokenOf Utf8.toString?
  cases Utf8.decode bs with
  | none => rfl
  | some cs =>
    simp only [Option.map_some, Option.bind_some, Text.content?, Text.isBlankText,
      String.toList_ofList, Text.isEmpty_trim, Text.trimmed]

theorem tokenOf_utf8 (s : String) : tokenOf (Utf8.bytes s) = Text.content? s := by
  rw [tokenOf_eq, Utf8.toString?, Utf8.bytes, Utf8.decode_encode]
  simp

/-! ### Clearing -/

theorem clear_of_remove {f : FileSlot} {d : Disk} (h : f.disk.remove f.path = .ok d) :
    f.clear = { f with disk := d } := by
  unfold clear
  rw [h]

theorem clear_of_missing {f : FileSlot} (h : f.disk.remove f.path = .error .missing) :
    f.clear = f := by
  unfold clear
  rw [h]

/-- A slot counts as cleared only when no file can be written at its path. -/
theorem clear_of_not_isOpen {f : FileSlot} (h : ¬ f.disk.IsOpen f.path)
    (hm : f.disk.remove f.path ≠ .error .missing) : f.clear = { f with cleared := true } := by
  unfold clear
  split
  · next d hd =>
    obtain ⟨bs, hr⟩ := Disk.read_of_remove hd
    exact absurd (Disk.isOpen_of_read hr) h
  · next hd => exact absurd hd hm
  · split
    · next d hd => exact absurd (Disk.isOpen_of_write hd) h
    · rfl

/-- The file is removed, or there is none, or none can be. -/
theorem clear_cases (f : FileSlot) :
    (∃ d, f.disk.remove f.path = .ok d ∧ f.clear = { f with disk := d }) ∨
    (f.disk.remove f.path = .error .missing ∧ f.clear = f) ∨
    (¬ f.disk.IsOpen f.path ∧ f.disk.remove f.path ≠ .error .missing ∧
      f.clear = { f with cleared := true }) := by
  by_cases hm : f.disk.remove f.path = .error .missing
  · exact .inr (.inl ⟨hm, clear_of_missing hm⟩)
  · by_cases ho : f.disk.IsOpen f.path
    · obtain ⟨d, hd⟩ | hd := Disk.remove_of_isOpen ho
      · exact .inl ⟨d, hd, clear_of_remove hd⟩
      · exact absurd hd hm
    · exact .inr (.inr ⟨ho, hm, clear_of_not_isOpen ho hm⟩)

/-- **A slot that was cleared stays as it is when it is cleared again.** -/
theorem clear_clear (f : FileSlot) : f.clear.clear = f.clear := by
  obtain ⟨d, hd, hc⟩ | ⟨-, hc⟩ | ⟨ho, hm, hc⟩ := clear_cases f
  · rw [hc]
    exact clear_of_missing (Disk.remove_of_remove hd)
  · rw [hc, hc]
  · rw [hc]
    exact clear_of_not_isOpen ho hm

/-! ### A slot that is opened anew -/

/-- A path that is not open holds nothing, however it is opened. -/
theorem load_opened_of_not_isOpen {path : String} {d : Disk} (h : ¬ d.IsOpen path) :
    (opened path d).load = none :=
  load_of_not_isOpen h

theorem path_does (f : FileSlot) : ∀ x : Turn, (f.does x).path = f.path
  | .save token => by
    obtain ⟨d, -, hs⟩ | ⟨-, e, hs⟩ := save_cases token f <;> rw [does, hs]
  | .load => rfl
  | .clear => by
    obtain ⟨d, -, hc⟩ | ⟨-, hc⟩ | ⟨-, -, hc⟩ := clear_cases f <;> rw [does, hc]

theorem path_after (f : FileSlot) : ∀ past : List Turn, (f.after past).path = f.path
  | [] => rfl
  | x :: past => by rw [after, path_does, path_after f past]

theorem load_opened_clear (f : FileSlot) : (opened f.path f.clear.disk).load = none := by
  obtain ⟨d, hd, hc⟩ | ⟨hm, hc⟩ | ⟨ho, -, hc⟩ := clear_cases f <;> rw [hc]
  · exact load_eq_none fun bs hr => absurd hr (Disk.read_remove hd bs)
  · -- nothing was there to be removed, so that a slot opened on the same disk is left as it is
    have h := load_clear (opened f.path f.disk)
    rwa [clear_of_missing (f := opened f.path f.disk) hm] at h
  · exact load_opened_of_not_isOpen ho

/-- A turn leaves a slot that is opened anew with what the slot itself holds, when it did so
before. -/
theorem load_opened_does {f : FileSlot} (h : (opened f.path f.disk).load = f.load) :
    ∀ x : Turn, (opened f.path (f.does x).disk).load = (f.does x).load
  | .save token => by
    obtain ⟨d, -, hs⟩ | ⟨ho, e, hs⟩ := save_cases token f <;> rw [does, hs]
    · rfl
    · rw [load_opened_of_not_isOpen ho]
      exact Eq.symm (load_of_not_isOpen ho)
  | .load => h
  | .clear => by rw [does, load_opened_clear, load_clear]

/-- **A slot that is opened anew at any time holds what the slot itself holds.** -/
theorem load_opened_after (path : String) (d : Disk) : ∀ past : List Turn,
    (opened path ((opened path d).after past).disk).load = ((opened path d).after past).load
  | [] => rfl
  | x :: past => by
    have ih := load_opened_after path d past
    have hp : ((opened path d).after past).path = path := path_after (opened path d) past
    have hx := load_opened_does (by rw [hp]; exact ih) x
    rwa [hp] at hx

/-! ### What is held -/

theorem load_opened (path : String) (d : Disk) :
    (opened path d).load = (opened path d).written := by
  unfold load written
  cases (opened path d).disk.read (opened path d).path with
  | error e => rfl
  | ok bs => exact tokenOf_eq bs

/-- A text that is saved is held, without blank characters at its ends. -/
theorem load_of_isWritable {f : FileSlot} {token : String} (h : f.IsWritable) :
    (f.does (.save token)).load = Text.content? token := by
  rw [does, load_save (save_eq_ok.mpr h), tokenOf_utf8]

/-- A text that cannot be saved changes nothing that is held. -/
theorem load_of_not_isWritable {f : FileSlot} {token : String} (h : ¬ f.IsWritable) :
    (f.does (.save token)).load = f.load := by
  cases hr : (f.save token).1 with
  | ok u => exact absurd (save_eq_ok.mp hr) h
  | error e => exact load_save_error hr

/-- **After any turns a slot holds what the last of them left that changed it.** -/
theorem load_after (path : String) (d : Disk) : ∀ past : List Turn,
    ((opened path d).after past).load = (opened path d).left past
  | [] => load_opened path d
  | .save token :: past => by
    rw [after, left]
    by_cases hw : ((opened path d).after past).IsWritable
    · rw [load_of_isWritable hw, if_pos hw]
    · rw [load_of_not_isWritable hw, load_after path d past, if_neg hw]
  | .load :: past => load_after path d past
  | .clear :: past => load_clear _

/-- **A slot in a file is one cell that lasts: at any time it holds what was left in it, a
text is saved exactly when the slot can be written and changes nothing when it is not saved,
clearing empties the slot once and for all, and a slot that is opened anew on the path holds
the same.** -/
theorem one_cell (path : String) (d : Disk) (past : List Turn) :
    let f := (opened path d).after past
    f.load = (opened path d).left past ∧
      (∀ token, (f.save token).1 = .ok () ↔ f.IsWritable) ∧
      (∀ token, (f.save token).1 ≠ .ok () → (f.does (.save token)).load = f.load) ∧
      f.clear.load = none ∧ f.clear.clear = f.clear ∧ (opened path f.disk).load = f.load :=
  ⟨load_after path d past, fun _ => save_eq_ok,
    fun _ hs => load_of_not_isWritable fun hw => hs (save_eq_ok.mpr hw), load_clear _,
    clear_clear _, load_opened_after path d past⟩

end FileSlot
end ProxyConsole
