/-
# What login sends and gets

Credentials go to the server, and a token comes back.

Key definitions: `Credentials`, `Credentials.read`, `TokenAnswer.read`.
-/
import ProxyConsole.Json.Decode

namespace ProxyConsole

/-- Who logs in, and with what password. -/
structure Credentials where
  email : String
  password : String
  deriving DecidableEq, Repr

namespace Credentials

def emailField : Field String := ⟨"email", Decode.string, none⟩

def passwordField : Field String := ⟨"password", Decode.string, none⟩

def form : Form := ⟨"Credentials", [emailField.rule, passwordField.rule]⟩

/-- The credentials that an outline holds. -/
def read : Outline → Except Mistake Credentials :=
  form.read fun g => do
    return { email := ← emailField.get g, password := ← passwordField.get g }

def toJson (c : Credentials) : Json :=
  .object [("email", .string c.email), ("password", .string c.password)]

end Credentials

/-- The answer to a login: the text of a token. -/
structure TokenAnswer where
  token : String
  deriving DecidableEq, Repr

namespace TokenAnswer

def tokenField : Field String := ⟨"token", Decode.string, none⟩

def form : Form := ⟨"TokenResponse", [tokenField.rule]⟩

/-- The answer that an outline holds. -/
def read : Outline → Except Mistake TokenAnswer :=
  form.read fun g => do
    return { token := ← tokenField.get g }

end TokenAnswer
end ProxyConsole
