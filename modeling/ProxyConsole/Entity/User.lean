/-
# Users

A user has an id and an e-mail address. The password is only ever sent: it is
written when it is set, and never read.

Key definitions: `User`, `User.read`, `User.toJson`.
Key theorem: `User.password_of_build`.
-/
import ProxyConsole.Entity.Basic

namespace ProxyConsole

/-- A user of the console. -/
structure User where
  id : String
  email : String
  password : Option String
  createdAt : Int64
  updatedAt : Int64
  deriving DecidableEq, Repr, Inhabited

/-- What a user is created from. -/
structure UserDraft where
  email : String
  password : String
  deriving DecidableEq, Repr

namespace User

def idField : Field String := ⟨"id", Decode.string, none⟩

def emailField : Field String := ⟨"email", Decode.string, none⟩

def createdAtField : Field Int64 := ⟨"created_at", Decode.int64, some 0⟩

def updatedAtField : Field Int64 := ⟨"updated_at", Decode.int64, some 0⟩

def form : Form :=
  ⟨"User", [idField.rule, emailField.rule, createdAtField.rule, updatedAtField.rule]⟩

/-- The user with the given fields. -/
def build (g : Given) : Except Mistake User := do
  return {
    id := ← idField.get g
    email := ← emailField.get g
    password := none
    createdAt := ← createdAtField.get g
    updatedAt := ← updatedAtField.get g }

/-- The user that an outline holds. -/
def read : Outline → Except Mistake User :=
  form.read build

/-- The member for the password, when it is set. -/
def passwordMember (u : User) : List (String × Json) :=
  match u.password with
  | some p => [("password", .string p)]
  | none => []

def toJson (u : User) : Json :=
  .object (("id", .string u.id) :: ("email", .string u.email) :: (u.passwordMember ++
    [("created_at", .int u.createdAt.toInt), ("updated_at", .int u.updatedAt.toInt)]))

/-- The user without the password. -/
def withoutPassword (u : User) : User :=
  { u with password := none }

/-- A user that was read has no password. -/
theorem password_of_build {g : Given} {u : User} (h : build g = .ok u) : u.password = none := by
  unfold build at h
  cases h1 : idField.get g with
  | error e => simp [h1, bind, Except.bind] at h
  | ok i =>
    cases h2 : emailField.get g with
    | error e => simp [h1, h2, bind, Except.bind] at h
    | ok m =>
      cases h3 : createdAtField.get g with
      | error e => simp [h1, h2, h3, bind, Except.bind] at h
      | ok c =>
        cases h4 : updatedAtField.get g with
        | error e => simp [h1, h2, h3, h4, bind, Except.bind] at h
        | ok t =>
          simp only [h1, h2, h3, h4, bind, Except.bind, pure, Except.pure, Except.ok.injEq] at h
          rw [← h]

end User

namespace UserDraft

def toJson (d : UserDraft) : Json :=
  .object [("email", .string d.email), ("password", .string d.password)]

end UserDraft

instance : Entity User where
  Draft := UserDraft
  collection := "/api/users"
  id := User.id
  settle := User.withoutPassword
  toJson := User.toJson
  read := User.read
  draftJson := UserDraft.toJson

end ProxyConsole
