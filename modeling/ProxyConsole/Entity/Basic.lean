/-
# Entities

An entity is a thing that the server keeps in a collection under an id. It is
created from a draft, and it travels as JSON. The copy that the server sends
back is settled before it is kept: what the server must not be trusted to keep
secret is left out.

Key definitions: `Entity`, `Entity.itemPath`.
-/
import ProxyConsole.Json.Decode

namespace ProxyConsole

/-- A type of entities. -/
class Entity (E : Type) where
  /-- What an entity is created from. -/
  Draft : Type
  /-- The path of the collection. -/
  collection : String
  id : E → String
  /-- The copy of the server as it is kept. -/
  settle : E → E
  toJson : E → Json
  read : Outline → Except Mistake E
  draftJson : Draft → Json

namespace Entity

/-- The path of the entity with an id. -/
def itemPath (E : Type) [Entity E] (id : String) : String :=
  collection E ++ "/" ++ id

/-- The entity that the whole of a text holds. -/
def ofBytes (E : Type) [Entity E] (bs : List UInt8) : Except Mistake E :=
  Decode.document read bs

/-- The entity that a JSON value holds. -/
def ofJson (E : Type) [Entity E] (v : Json) : Except Mistake E :=
  ofBytes E v.bytes

end Entity
end ProxyConsole
