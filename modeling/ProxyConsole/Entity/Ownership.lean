/-
# Who owns a record

The owner of a record is a snapshot: it does not follow the user. These
functions look the user up again by id, point a record at another user, and
list the records of a user.

Key definitions: `Record.ownerAmong`, `Record.retarget`, `User.recordsAmong`.
Key theorem: `Record.retarget_eq_self`.
-/
import ProxyConsole.Entity.Record

namespace ProxyConsole

namespace Record

/-- The first user with the id of the record's owner. -/
def ownerAmong (r : Record) (users : List User) : Option User :=
  users.find? fun u => u.id == r.owner.id

/-- The first user with an e-mail address. -/
def userWithEmail (email : String) (users : List User) : Option User :=
  users.find? fun u => u.email == email

/-- The record owned by the user with the e-mail address, and whether there is
such a user; without one the record stays as it is. -/
def retarget (r : Record) (email : String) (users : List User) : Bool × Record :=
  match userWithEmail email users with
  | some u => (true, { r with owner := Owner.ofUser u })
  | none => (false, r)

theorem retarget_eq_self {r : Record} {email : String} {users : List User}
    (h : ∀ u ∈ users, u.email ≠ email) : r.retarget email users = (false, r) := by
  have hn : userWithEmail email users = none := by
    simp only [userWithEmail, List.find?_eq_none, beq_iff_eq]
    exact h
  simp only [retarget, hn]

end Record

/-- The records that the user owns, in their order. -/
def User.recordsAmong (u : User) (records : List Record) : List Record :=
  records.filter fun r => r.owner.id == u.id

end ProxyConsole
