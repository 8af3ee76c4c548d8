/-
# The places of the console

A route is a place of the console, and a path is its text. Reading drops blank
characters at the ends of the path and the empty pieces between its slashes;
every path of no known form leads to the list of records.

Key definitions: `Route`, `Route.parse`, `Route.path`, `Route.needsSession`.
-/
import ProxyConsole.Text.Blank
import ProxyConsole.Text.Split

namespace ProxyConsole

/-- A place of the console. -/
inductive Route where
  | help
  | records
  | newRecord
  | record (id : String)
  | users
  | newUser
  | user (id : String)
  | login
  | logout
  deriving DecidableEq, Repr

namespace Route

/-- The pieces of a path between slashes, but for empty ones. -/
def segments (path : String) : List String :=
  ((Text.split '/' (Text.trim path.toList)).filter fun s => !s.isEmpty).map String.ofList

/-- The route that the pieces of a path name. -/
def ofSegments : List String → Route
  | ["help"] => help
  | ["records"] => records
  | ["records", "new"] => newRecord
  | ["records", id] => record id
  | ["users"] => users
  | ["users", "new"] => newUser
  | ["users", id] => user id
  | ["login"] => login
  | ["logout"] => logout
  | _ => records

/-- The route of a path. -/
def parse (path : String) : Route :=
  ofSegments (segments path)

/-- The path of a route. -/
def path : Route → String
  | help => "/help"
  | records => "/records"
  | newRecord => "/records/new"
  | record id => "/records/" ++ id
  | users => "/users"
  | newUser => "/users/new"
  | user id => "/users/" ++ id
  | login => "/login"
  | logout => "/logout"

/-- The id that a route carries. -/
def id? : Route → Option String
  | record id => some id
  | user id => some id
  | _ => none

/-- Whether only a logged in user may enter. -/
def needsSession : Route → Bool
  | login => false
  | logout => false
  | _ => true

end Route
end ProxyConsole
