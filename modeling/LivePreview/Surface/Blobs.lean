import LivePreview.Digest
import LivePreview.Text.Bytes
import LivePreview.Text.Numeral

/-!
# Blobs

1. A store holds documents under numbers, which are given out in order, from one on and, when all
   are given out, from zero on again. One of the documents may be active; a revoked one is gone for
   good.
2. `url` writes the address of a number, and `ofUrl?` reads it.
-/

namespace LivePreview.Surface

/-- A document in a store. -/
structure Blob where
  id : Nat
  body : String
deriving DecidableEq, Repr

namespace Blob

/-- What the address of every blob starts with. -/
def address : List Char := "/blob/".toList

/-- The address of a number. -/
def urlOf (id : Nat) : String := String.ofList (address ++ Text.decimal id)

/-- The address of a blob. -/
def url (b : Blob) : String := urlOf b.id

/-- Numbers are below this. -/
def idLimit : Nat := UInt64.size

/-- The number that digits denote, which may follow a plus sign. -/
def readId? (cs : List Char) : Option Nat :=
  let digits :=
    match cs with
    | '+' :: rest => rest
    | cs => cs
  if digits.isEmpty || !digits.all Text.isDecimal then none
  else
    let id := Text.readDecimal digits
    if id < idLimit then some id else none

/-- The number that an address is for. -/
def ofUrl? (path : List Char) : Option Nat :=
  if address.isPrefixOf path then readId? (path.drop address.length) else none

/-- The tag that tells whether a body has changed, in quotes. -/
def tag (b : Blob) : String :=
  "\"" ++ String.ofList (Digest.hex (Text.encode b.body).toList) ++ "\""

end Blob

/-- Documents under numbers. -/
structure Blobs where
  /-- Numbers given out so far. -/
  given : Nat
  /-- The documents that are not revoked. -/
  blobs : List Blob
  active : Option Blob
deriving DecidableEq, Repr

namespace Blobs

/-- No document yet. -/
def empty : Blobs := ⟨0, [], none⟩

/-- The document of a number, unless it is revoked. -/
def get? (s : Blobs) (id : Nat) : Option Blob := s.blobs.find? fun b => b.id == id

/-- Puts a document under the next number, in place of one that is still there. -/
def insert (s : Blobs) (body : String) : Blob × Blobs :=
  let blob : Blob := ⟨(s.given + 1) % Blob.idLimit, body⟩
  let others := s.blobs.filter fun b => b.id != blob.id
  (blob, { s with given := s.given + 1, blobs := others ++ [blob] })

/-- Makes a document active, unless it is revoked. -/
def activate (s : Blobs) (id : Nat) : Option Blob × Blobs :=
  match s.get? id with
  | none => (none, s)
  | some blob => (some blob, { s with active := some blob })

/-- A number is that of the active document. -/
def isActive (s : Blobs) (id : Nat) : Bool :=
  match s.active with
  | some blob => blob.id == id
  | none => false

/-- Revokes a number; tells whether it was that of the active document. -/
def revoke (s : Blobs) (id : Nat) : Bool × Blobs :=
  let blobs := s.blobs.filter fun b => b.id != id
  if s.isActive id then (true, ⟨s.given, blobs, none⟩) else (false, { s with blobs := blobs })

/-- The number of documents. -/
def size (s : Blobs) : Nat := s.blobs.length

/-- There is no document. -/
def isEmpty (s : Blobs) : Bool := s.blobs.isEmpty

end Blobs

end LivePreview.Surface
