/-
# The page of a user

The page shows one user with the records that the user owns, and a form for a
new password, which has to be entered twice. What becomes of the form is told on
the page alone.

Key definitions: `UserScreen`, `UserScreen.load`, `UserScreen.submitPassword`,
`UserScreen.delete`.
Key theorem: `UserScreen.submitPassword_mismatch`.
-/
import ProxyConsole.Collection
import ProxyConsole.Entity.Ownership

namespace ProxyConsole

/-- The page of a user. -/
structure UserScreen where
  user : User
  records : List Record
  password : String
  confirmation : String
  error : Option String
  success : Option String
  deriving DecidableEq, Repr

namespace UserScreen

def mismatch : String := "Passwords must match"

def updated : String := "Password updated"

def failed : String := "Error updating password"

/-- Fetches the user, then all records, and keeps those that the user owns. -/
def load (c : Setup) (id : String) (s : Session) : Except Failure UserScreen × Session :=
  match Collection.get User c .banner id s with
  | (.error f, s) => (.error f, s)
  | (.ok user, s) => match Collection.query Record c .banner [] s with
    | (.error f, s) => (.error f, s)
    | (.ok records, s) => (.ok ⟨user, user.recordsAmong records, "", "", none, none⟩, s)

/-- Fills in the form. -/
def fill (password confirmation : String) (p : UserScreen) : UserScreen :=
  { p with password, confirmation }

/-- Sends the password when it was entered twice alike, and clears the form
whatever comes of it. -/
def submitPassword (c : Setup) (p : UserScreen) (s : Session) : UserScreen × Session :=
  if p.password ≠ p.confirmation then ({ p with error := some mismatch }, s)
  else match Collection.postPassword c p.user.id p.password s with
    | (.ok _, s) =>
      ({ p with success := some updated, error := none, password := "", confirmation := "" }, s)
    | (.error _, s) =>
      ({ p with success := none, error := some failed, password := "", confirmation := "" }, s)

/-- Deletes the user and goes back to the list. -/
def delete (c : Setup) (p : UserScreen) (s : Session) : Except Failure Route × Session :=
  match Collection.remove c .banner p.user s with
  | (.error f, s) => (.error f, s)
  | (.ok _, s) =>
    let r := s.navigate c .users
    (.ok r.1, r.2)

/-- Passwords that differ are not sent. -/
theorem submitPassword_mismatch {c : Setup} {p : UserScreen} {s : Session}
    (h : p.password ≠ p.confirmation) :
    p.submitPassword c s = ({ p with error := some mismatch }, s) := by
  rw [submitPassword, if_pos h]

end UserScreen
end ProxyConsole
