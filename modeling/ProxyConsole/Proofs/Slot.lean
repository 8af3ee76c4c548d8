/-
# What a slot holds after a token was saved

A slot in memory can always be written, and a slot in a file when a file can be written at
its path once the folders around it are made, as far as that goes. A token is saved in a
slot when the slot can be written, and only then; the slot holds it then. A slot in which
nothing could be saved holds what it held before: nothing can be read at a path where
nothing can be written.

Key definitions: `FileSlot.IsWritable`, `Slot.IsWritable`.
Key theorems: `FileSlot.save_eq_ok`, `Slot.save_eq_ok`, `Slot.load_save`,
`Slot.load_save_error`.
-/
import ProxyConsole.Proofs.Disk
import ProxyConsole.Slot

namespace ProxyConsole
namespace FileSlot

/-- A trimmed text that is not empty is the token that its bytes hold. -/
theorem tokenOf_bytes {token : String} (ht : Text.trimmed token = token) (hne : token ≠ "") :
    tokenOf (Utf8.bytes token) = some token := by
  have hcs : Text.trim token.toList = token.toList := by
    rw [← String.toList_ofList (l := Text.trim token.toList)]
    exact congrArg String.toList ht
  have hne' : token.toList.isEmpty = false := by simpa using hne
  unfold tokenOf
  rw [show Utf8.bytes token = Utf8.encode token.toList from rfl, Utf8.decode_encode]
  simp [hcs, hne']

theorem load_of_read {f : FileSlot} {bs : List UInt8} (hc : f.cleared = false)
    (hr : f.disk.read f.path = .ok bs) : f.load = tokenOf bs := by
  unfold load
  rw [hr]
  simp [hc]

/-- A file can be written at the end of the path, once the folders around it are made as far
as that goes. What the slot holds does not matter, and neither does what is to be written. -/
def IsWritable (f : FileSlot) : Prop :=
  (f.disk.tryFolders f.folder).2.IsOpen f.path

instance (f : FileSlot) : Decidable f.IsWritable :=
  inferInstanceAs (Decidable (Disk.IsOpen _ _))

/-- A text is saved by writing its bytes at the end of the path, once the folders around it
are made. Where that fails, nothing can be written or read there. -/
theorem save_cases (token : String) (f : FileSlot) :
    (∃ e : Disk, (f.disk.tryFolders f.folder).2.write f.path (Utf8.bytes token) = .ok e ∧
      f.save token = (.ok (), { f with cleared := false, disk := e })) ∨
    (¬ f.IsWritable ∧
      ∃ e, f.save token = (.error e, { f with disk := (f.disk.tryFolders f.folder).2 })) := by
  unfold save
  dsimp only
  cases hf : (f.disk.tryFolders f.folder).1 with
  | error e => exact .inr ⟨Disk.not_isOpen_of_tryFolders hf, e, rfl⟩
  | ok u =>
    cases hw : (f.disk.tryFolders f.folder).2.write f.path (Utf8.bytes token) with
    | ok d => exact .inl ⟨d, rfl, rfl⟩
    | error e =>
      refine .inr ⟨fun ho => ?_, e, rfl⟩
      obtain ⟨d, hd⟩ := ho.write (Utf8.bytes token)
      rw [hw] at hd
      cases hd

/-- **A text is saved when the slot can be written, and only then.** -/
theorem save_eq_ok {f : FileSlot} {token : String} :
    (f.save token).1 = .ok () ↔ f.IsWritable := by
  obtain ⟨d, hw, hs⟩ | ⟨ho, e, hs⟩ := save_cases token f <;> rw [hs]
  · exact iff_of_true rfl (Disk.isOpen_of_write hw)
  · exact iff_of_false (by simp) ho

/-- A slot in which a text was saved holds the token of its bytes. -/
theorem load_save {f : FileSlot} {token : String} (h : (f.save token).1 = .ok ()) :
    (f.save token).2.load = tokenOf (Utf8.bytes token) := by
  obtain ⟨d, hw, hs⟩ | ⟨-, e, hs⟩ := save_cases token f <;> rw [hs] at h ⊢
  · exact load_of_read rfl (Disk.read_of_write hw)
  · cases h

/-- A slot whose path is not open holds no token. -/
theorem load_of_not_isOpen {f : FileSlot} (h : ¬ f.disk.IsOpen f.path) : f.load = none :=
  load_eq_none fun _ hr => absurd (Disk.isOpen_of_read hr) h

/-- A slot in which nothing could be saved holds what it held. -/
theorem load_save_error {f : FileSlot} {token : String} {e : DiskError}
    (h : (f.save token).1 = .error e) : (f.save token).2.load = f.load := by
  obtain ⟨d, hw, hs⟩ | ⟨ho, e, hs⟩ := save_cases token f <;> rw [hs] at h ⊢
  · cases h
  · have before : f.load = none := load_eq_none fun bs hr =>
      absurd (Disk.isOpen_of_read ((Disk.grows_tryFolders _ _).read hr)) ho
    rw [before]
    exact load_of_not_isOpen ho

end FileSlot

namespace Slot

theorem load_file (f : FileSlot) : (file f).load = f.load := rfl

/-- A slot in memory can always be written, a slot in a file as its disk has it. -/
def IsWritable : Slot → Prop
  | memory _ => True
  | file f => f.IsWritable

instance : DecidablePred IsWritable
  | memory _ => inferInstanceAs (Decidable True)
  | file f => inferInstanceAs (Decidable f.IsWritable)

theorem save_file (token : String) (f : FileSlot) :
    save token (.file f) = ((f.save token).1, .file (f.save token).2) := rfl

/-- **A token is saved when the slot can be written, and only then.** -/
theorem save_eq_ok {token : String} : ∀ {s : Slot}, (s.save token).1 = .ok () ↔ s.IsWritable
  | memory _ => iff_of_true rfl trivial
  | file _ => FileSlot.save_eq_ok

/-- A slot in which a token was saved holds it. -/
theorem load_save {token : String} (ht : Text.trimmed token = token) (hne : token ≠ "")
    {s : Slot} (h : (s.save token).1 = .ok ()) : (s.save token).2.load = some token := by
  cases s with
  | memory t => rfl
  | file f =>
    simp only [save_file, load_file] at h ⊢
    rw [FileSlot.load_save h, FileSlot.tokenOf_bytes ht hne]

/-- A slot in which nothing could be saved holds what it held. -/
theorem load_save_error {token : String} {e : DiskError} {s : Slot}
    (h : (s.save token).1 = .error e) : (s.save token).2.load = s.load := by
  cases s with
  | memory t => simp [save] at h
  | file f =>
    simp only [save_file, load_file] at h ⊢
    exact FileSlot.load_save_error h

end Slot
end ProxyConsole
