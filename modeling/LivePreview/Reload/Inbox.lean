import LivePreview.Reload.Hub

/-!
# Clients in memory

Clients are numbered in the order they come, and each keeps what it is sent.
-/

namespace LivePreview.Reload

/-- What a client has been sent. -/
structure Inbox where
  texts : List String
  isClosed : Bool
deriving DecidableEq, Repr

namespace Inbox

/-- Nothing has been sent. -/
def empty : Inbox := ⟨[], false⟩

/-- The inbox with one more text. -/
def push (text : String) (b : Inbox) : Inbox := { b with texts := b.texts ++ [text] }

/-- The inbox of a client whose connection has ended. -/
def close (b : Inbox) : Inbox := { b with isClosed := true }

/-- How clients in memory are reached. -/
def wire {m : Type → Type} [Monad m] : Wire (StateT (List Inbox) m) Nat where
  send client text := do
    modify fun boxes => boxes.modify client (push text)
    return .ok ()
  close client := modify fun boxes => boxes.modify client close

end Inbox

/-- There are no clients to reach. -/
def Wire.none {m : Type → Type} : Wire m Empty := ⟨nofun, nofun⟩

end LivePreview.Reload
