/-
# Who owns a record, asked from both sides

A record names its owner by an id, a user lists the records whose owner has their id, and
a record is given away by an e-mail address. The three agree, whatever users there are:
two users may share an id or an address, and the snapshot in a record may be out of date.
Among users, a record is listed for exactly those whose id is that of the owner that is
found. Given to an address, it belongs to the first user with that address, and is found
to belong to a user with the same id; only when ids are shared may that be another one.

Key definitions: `User.IsFirst`, `Record.GivenTo`, `OwnershipAgrees`.
Key theorems: `Record.owner_id_eq_iff`, `User.recordsAmong_eq_filter`,
`Record.retarget_eq_true`, `Record.givenTo_of_isFirst`, `ownership_agrees`.
-/
import Mathlib.Data.List.Nodup
import ProxyConsole.Entity.Ownership

namespace ProxyConsole

variable {users : List User} {email : String} {r : Record} {u v : User}

/-! ### The owner that is found -/

namespace Record

theorem ownerAmong_mem (h : r.ownerAmong users = some v) : v ∈ users ∧ v.id = r.owner.id :=
  ⟨List.mem_of_find?_eq_some h, by simpa using List.find?_some h⟩

/-- Somebody is found where there is a user with the id of the owner. -/
theorem exists_ownerAmong (hu : u ∈ users) (h : u.id = r.owner.id) :
    ∃ v, r.ownerAmong users = some v := by
  rw [← Option.isSome_iff_exists, ownerAmong, List.find?_isSome]
  exact ⟨u, hu, by simpa using h⟩

/-- One of the users has the id of the owner exactly when somebody with that user's id is
found to be the owner. -/
theorem owner_id_eq_iff (hu : u ∈ users) :
    r.owner.id = u.id ↔ ∃ v, r.ownerAmong users = some v ∧ v.id = u.id := by
  constructor
  · intro h
    obtain ⟨v, hv⟩ := exists_ownerAmong hu h.symm
    exact ⟨v, hv, (ownerAmong_mem hv).2.trans h⟩
  · rintro ⟨v, hv, h⟩
    exact (ownerAmong_mem hv).2.symm.trans h

/-- Where no two users share an id, the user with the id of the owner is found. -/
theorem ownerAmong_of_nodup (hn : (users.map (·.id)).Nodup) (hu : u ∈ users)
    (h : r.owner.id = u.id) : r.ownerAmong users = some u := by
  obtain ⟨v, hv, hid⟩ := (owner_id_eq_iff hu).mp h
  have he : v = u := List.inj_on_of_nodup_map hn (ownerAmong_mem hv).1 hu hid
  rw [hv, he]

end Record

/-- **The records of one of the users** are those whose owner is found to have the id of
that user, in their order. -/
theorem User.recordsAmong_eq_filter (hu : u ∈ users) (records : List Record) :
    u.recordsAmong records =
      records.filter fun r => (r.ownerAmong users).any fun v => v.id == u.id := by
  refine List.filter_congr fun r _ => ?_
  rw [Bool.eq_iff_iff, beq_iff_eq, Record.owner_id_eq_iff hu, Option.any_eq_true]
  simp only [beq_iff_eq]

theorem User.mem_recordsAmong {records : List Record} (h : r ∈ records) :
    r ∈ u.recordsAmong records ↔ r.owner.id = u.id := by
  simp [User.recordsAmong, h]

/-! ### Giving a record away -/

/-- A user is the first of them with an e-mail address. -/
def User.IsFirst (users : List User) (email : String) (u : User) : Prop :=
  u.email = email ∧ ∃ before after, users = before ++ u :: after ∧ ∀ v ∈ before, v.email ≠ email

theorem User.IsFirst.mem (h : IsFirst users email u) : u ∈ users := by
  obtain ⟨-, before, after, rfl, -⟩ := h
  exact List.mem_append_right _ List.mem_cons_self

namespace Record

theorem userWithEmail_eq_some : userWithEmail email users = some u ↔ u.IsFirst users email := by
  rw [userWithEmail, List.find?_eq_some_iff_append, User.IsFirst, beq_iff_eq]
  simp

theorem userWithEmail_eq_none : userWithEmail email users = none ↔ ∀ u ∈ users, u.email ≠ email := by
  simp [userWithEmail]

theorem retarget_of_isFirst (h : u.IsFirst users email) :
    r.retarget email users = (true, { r with owner := ⟨u.id, u.email⟩ }) := by
  simp only [retarget, userWithEmail_eq_some.mpr h]
  rfl

/-- A record is given away exactly when there is a user with the e-mail address; the first
of them gets it. -/
theorem retarget_eq_true :
    (r.retarget email users).1 = true ↔ ∃ u ∈ users, u.email = email := by
  cases h : userWithEmail email users with
  | some u =>
    have hu : u.IsFirst users email := userWithEmail_eq_some.mp h
    rw [retarget_of_isFirst hu]
    exact iff_of_true rfl ⟨u, hu.mem, hu.1⟩
  | none =>
    have hn : ∀ u ∈ users, u.email ≠ email := userWithEmail_eq_none.mp h
    rw [retarget_eq_self hn]
    refine iff_of_false Bool.false_ne_true ?_
    rintro ⟨u, hu, he⟩
    exact hn u hu he

theorem exists_isFirst (h : (r.retarget email users).1 = true) :
    ∃ u : User, u.IsFirst users email := by
  obtain ⟨u, hu, he⟩ := retarget_eq_true.mp h
  have hs : (userWithEmail email users).isSome = true := by
    rw [userWithEmail, List.find?_isSome]
    exact ⟨u, hu, by simpa using he⟩
  obtain ⟨v, hv⟩ := Option.isSome_iff_exists.mp hs
  exact ⟨v, userWithEmail_eq_some.mp hv⟩

/-- What a record has become that was given to a user by an e-mail address. It holds a
snapshot of that user, and nothing else has changed. Among the users somebody with that id is
found to own it, the user themselves unless ids are shared; it is listed for exactly those
with that id; and to give it away once more changes nothing. -/
structure GivenTo (users : List User) (email : String) (u : User) (r r' : Record) : Prop where
  owner : r'.owner = ⟨u.id, u.email⟩
  rest : { r' with owner := r.owner } = r
  found : ∃ v, r'.ownerAmong users = some v ∧ v.id = u.id
  themselves : (users.map (·.id)).Nodup → r'.ownerAmong users = some u
  listed : ∀ (w : User) (records : List Record), r' ∈ records →
    (r' ∈ w.recordsAmong records ↔ w.id = u.id)
  again : r'.retarget email users = (true, r')

theorem givenTo_of_isFirst (h : u.IsFirst users email) :
    GivenTo users email u r (r.retarget email users).2 := by
  have hu : u ∈ users := h.mem
  have hr := retarget_of_isFirst (r := r) h
  have hid : (r.retarget email users).2.owner.id = u.id := by rw [hr]
  refine ⟨by rw [hr], by rw [hr], (owner_id_eq_iff hu).mp hid,
    fun hn => ownerAmong_of_nodup hn hu hid, ?_, ?_⟩
  · intro w records hm
    rw [User.mem_recordsAmong hm, hid, eq_comm]
  · rw [retarget_of_isFirst h, hr]

end Record

/-- The three questions about who owns a record have one answer. -/
structure OwnershipAgrees (records : List Record) (users : List User) (r : Record)
    (email : String) : Prop where
  records : ∀ u ∈ users, u.recordsAmong records =
    records.filter fun r => (r.ownerAmong users).any fun v => v.id == u.id
  given_iff : (r.retarget email users).1 = true ↔ ∃ u ∈ users, u.email = email
  given : (r.retarget email users).1 = true → ∃ u : User, u.IsFirst users email ∧
    Record.GivenTo users email u r (r.retarget email users).2
  kept : (r.retarget email users).1 = false → (r.retarget email users).2 = r

/-- **Who owns a record is the same from both sides.** -/
theorem ownership_agrees (records : List Record) (users : List User) (r : Record)
    (email : String) : OwnershipAgrees records users r email where
  records _ hu := User.recordsAmong_eq_filter hu records
  given_iff := Record.retarget_eq_true
  given h := by
    obtain ⟨u, hu⟩ := Record.exists_isFirst h
    exact ⟨u, hu, Record.givenTo_of_isFirst hu⟩
  kept h := by
    have hn : ∀ u ∈ users, u.email ≠ email := fun u hu he =>
      Bool.false_ne_true (h.symm.trans (Record.retarget_eq_true.mpr ⟨u, hu, he⟩))
    rw [Record.retarget_eq_self hn]

/-- Where two users share an id, the other one is found. -/
example :
    let users : List User := [⟨"1", "a@x", none, 0, 0⟩, ⟨"1", "b@x", none, 0, 0⟩]
    let r := ((default : Record).retarget "b@x" users).2
    r.owner.email = "b@x" ∧ (r.ownerAmong users).map (·.email) = some "a@x" := by
  decide

end ProxyConsole
