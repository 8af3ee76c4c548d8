/-
# What the server tells of itself

Its version, and where its proxy listens with and without encryption.

Key definitions: `ServerInfo`, `ServerInfo.read`, `ServerInfo.toJson`.
-/
import ProxyConsole.Json.Decode

namespace ProxyConsole

/-- Whether and where the proxy listens. -/
structure Listener where
  enabled : Bool
  address : String
  deriving DecidableEq, Repr, Inhabited

namespace Listener

def enabledField : Field Bool := ⟨"enabled", Decode.bool, none⟩

def addressField : Field String := ⟨"listener", Decode.string, none⟩

def form : Form := ⟨"ListenerInfo", [enabledField.rule, addressField.rule]⟩

def read : Outline → Except Mistake Listener :=
  form.read fun g => do
    return { enabled := ← enabledField.get g, address := ← addressField.get g }

def toJson (l : Listener) : Json :=
  .object [("enabled", .bool l.enabled), ("listener", .string l.address)]

/-- Nothing listens. -/
def none : Listener := ⟨false, ""⟩

end Listener

/-- The listeners of the proxy, with and without encryption. -/
structure ProxyInfo where
  ssl : Listener
  http : Listener
  deriving DecidableEq, Repr, Inhabited

namespace ProxyInfo

def sslField : Field Listener := ⟨"ssl", Listener.read, .none⟩

def httpField : Field Listener := ⟨"http", Listener.read, .none⟩

def form : Form := ⟨"ProxyInfo", [sslField.rule, httpField.rule]⟩

def read : Outline → Except Mistake ProxyInfo :=
  form.read fun g => do
    return { ssl := ← sslField.get g, http := ← httpField.get g }

def toJson (p : ProxyInfo) : Json :=
  .object [("ssl", p.ssl.toJson), ("http", p.http.toJson)]

end ProxyInfo

/-- What the server tells of itself. -/
structure ServerInfo where
  version : String
  proxy : ProxyInfo
  deriving DecidableEq, Repr, Inhabited

namespace ServerInfo

def versionField : Field String := ⟨"version", Decode.string, none⟩

def proxyField : Field ProxyInfo :=
  ⟨"proxy", ProxyInfo.read, some ⟨Listener.none, Listener.none⟩⟩

def form : Form := ⟨"ServerInfo", [versionField.rule, proxyField.rule]⟩

/-- What an outline tells of the server. -/
def read : Outline → Except Mistake ServerInfo :=
  form.read fun g => do
    return { version := ← versionField.get g, proxy := ← proxyField.get g }

def toJson (i : ServerInfo) : Json :=
  .object [("version", .string i.version), ("proxy", i.proxy.toJson)]

end ServerInfo
end ProxyConsole
