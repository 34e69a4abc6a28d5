import LivePreview.Console.Journal
import LivePreview.Reload.Message
import LivePreview.Text.Numeral

/-!
# The hub

A hub tells the connected shell pages where the preview is. It remembers the last message for those
that come later: a client is greeted, told the message that is remembered, and told every message
from then on. A client that cannot be told is dropped.
-/

namespace LivePreview.Reload

open Console (Journal)

/-- How clients are reached. -/
structure Wire (m : Type → Type) (κ : Type) where
  /-- Sends a text to a client. -/
  send : κ → String → m (Except String Unit)
  /-- Ends the connection of a client. -/
  close : κ → m Unit

/-- The clients, and the message that newcomers are told. -/
structure Hub (κ : Type) where
  clients : List κ
  last : Option Message
deriving DecidableEq, Repr

namespace Hub

/-- No client, and no message yet. -/
def empty {κ : Type} : Hub κ := ⟨[], none⟩

/-- The topic of notes on clients. -/
def topic : String := "reload"

variable {m : Type → Type} {κ : Type} [Monad m] [Journal m]

/-- Sends a text to each client; answers those that could be told. -/
def sendAll (wire : Wire m κ) (text : String) : List κ → m (List κ)
  | [] => return []
  | client :: clients => do
    match ← wire.send client text with
    | .ok () =>
      let told ← sendAll wire text clients
      return client :: told
    | .error e =>
      Journal.detail topic ("client dropped: " ++ e)
      sendAll wire text clients

/-- Tells every client a message, and remembers it. -/
def broadcast (wire : Wire m κ) (message : Message) (h : Hub κ) : m (Hub κ) := do
  if h.clients.isEmpty then
    Journal.detail topic "no clients connected"
    return ⟨[], some message⟩
  else
    let told ← sendAll wire (String.ofList message.toJson) h.clients
    let count := String.ofList (Text.decimal h.clients.length)
    Journal.detail topic ("broadcast to " ++ count ++ " clients")
    return ⟨told, some message⟩

/-- Sends messages to a client, up to the first that cannot be sent. -/
def greet (wire : Wire m κ) (client : κ) : List Message → m (Except String Unit)
  | [] => return .ok ()
  | message :: messages => do
    match ← wire.send client (String.ofList message.toJson) with
    | .ok () => greet wire client messages
    | .error e => return .error e

/-- What a newcomer is told. -/
def welcome (h : Hub κ) : List Message := Message.greeting :: h.last.toList

/-- Greets a client and takes it in, if it can be told. -/
def connect (wire : Wire m κ) (client : κ) (h : Hub κ) : m (Hub κ) := do
  match ← greet wire client h.welcome with
  | .error e =>
    Journal.note topic ("failed to greet client: " ++ e)
    return h
  | .ok () =>
    let total := String.ofList (Text.decimal (h.clients.length + 1))
    Journal.detail topic ("client connected (total: " ++ total ++ ")")
    return { h with clients := h.clients ++ [client] }

/-- Ends every connection. -/
def closeAll (wire : Wire m κ) (h : Hub κ) : m (Hub κ) := do
  h.clients.forM wire.close
  return { h with clients := [] }

end Hub

end LivePreview.Reload
