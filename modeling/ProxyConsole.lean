import ProxyConsole.Text.Blank
import ProxyConsole.Text.Split
import ProxyConsole.Text.Utf8
import ProxyConsole.Text.Quoted
import ProxyConsole.Number.Hex
import ProxyConsole.Number.Shortest
import ProxyConsole.Json.Basic
import ProxyConsole.Json.Outline
import ProxyConsole.Json.Mistake
import ProxyConsole.Json.Decode
import ProxyConsole.Text.Base64Url
import ProxyConsole.Calendar
import ProxyConsole.Token
import ProxyConsole.Route
import ProxyConsole.Entity.Basic
import ProxyConsole.Entity.User
import ProxyConsole.Entity.Record
import ProxyConsole.Entity.Ownership
import ProxyConsole.Entity.Optimistic
import ProxyConsole.Failure
import ProxyConsole.Notices
import ProxyConsole.Wire.Url
import ProxyConsole.Disk
import ProxyConsole.Slot
import ProxyConsole.Session.Credentials
import ProxyConsole.ServerInfo
import ProxyConsole.Wire.Exchange
import ProxyConsole.Session.Basic
import ProxyConsole.Session.Login
import ProxyConsole.Session.Ask
import ProxyConsole.Collection
import ProxyConsole.Screen.Record
import ProxyConsole.Screen.User
import ProxyConsole.Console
import ProxyConsole.Toml.Document
import ProxyConsole.Config
import ProxyConsole.Command.Run
import ProxyConsole.Main
import ProxyConsole.Proofs.Standing
import ProxyConsole.Proofs.Calls
import ProxyConsole.Proofs.Bare
import ProxyConsole.Proofs.Bearer
import ProxyConsole.Proofs.Confirmed
import ProxyConsole.Proofs.Denial
import ProxyConsole.Proofs.Login
import ProxyConsole.Proofs.Check
import ProxyConsole.Proofs.Percent
import ProxyConsole.Proofs.Report
import ProxyConsole.Proofs.Site
import ProxyConsole.Proofs.Item
import ProxyConsole.Proofs.Life
import ProxyConsole.Proofs.Window
import ProxyConsole.Proofs.Banner
import ProxyConsole.Proofs.Base64
import ProxyConsole.Proofs.Grammar
import ProxyConsole.Proofs.Compact
import ProxyConsole.Proofs.Mint
import ProxyConsole.Proofs.Payload
import ProxyConsole.Proofs.Cell
import ProxyConsole.Proofs.Interchange
import ProxyConsole.Proofs.Refusal
import ProxyConsole.Proofs.Landing
import ProxyConsole.Proofs.Verdict
import ProxyConsole.Proofs.ReadBack
import ProxyConsole.Proofs.OwnPath
import ProxyConsole.Proofs.PasswordForm
import ProxyConsole.Proofs.Unseen
import ProxyConsole.Proofs.Submission
import ProxyConsole.Proofs.Ownership
import ProxyConsole.Proofs.Change
import ProxyConsole.Proofs.Precedence
import ProxyConsole.Proofs.Reason
import ProxyConsole.Proofs.Info
import ProxyConsole.Proofs.Sendable
import ProxyConsole.Proofs.Schema
import ProxyConsole.Proofs.Removal
import ProxyConsole.Proofs.Position
