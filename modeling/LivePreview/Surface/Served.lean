import LivePreview.Preview.Surface
import LivePreview.Reload.Hub
import LivePreview.Surface.Blobs

/-!
# Blobs as a surface

Every artifact is a blob. Showing one makes it active and sends the shell pages to its address;
taking the active one back tells them that nothing is shown.
-/

namespace LivePreview.Surface

open Console (Journal)
open Preview (Artifact SurfaceError Surface)
open Reload (Hub Message Wire)

/-- Blobs, and who is told of them. -/
structure ServedTo (η : Type) where
  blobs : Blobs
  hub : η
deriving DecidableEq, Repr

/-- Blobs, and the hub that is told of them. -/
abbrev Served (κ : Type) := ServedTo (Hub κ)

namespace Served

variable {m : Type → Type} {η κ : Type}

/-- No blob and no client. -/
def empty : Served κ := ⟨.empty, .empty⟩

/-- Puts a document into the store. -/
def create (document : String) (s : ServedTo η) : Except SurfaceError Artifact × ServedTo η :=
  let (blob, blobs) := s.blobs.insert document
  (.ok ⟨blob.id, blob.url⟩, { s with blobs := blobs })

section

variable [Monad m] (tell : Message → η → m η)

/-- Makes a blob active and tells its address. -/
def display (a : Artifact) (s : ServedTo η) : m (Except SurfaceError Unit × ServedTo η) := do
  match s.blobs.activate a.id with
  | (none, _) => return (.error (.unavailable (a.location ++ " was revoked before display")), s)
  | (some blob, blobs) =>
    let hub ← tell (.navigate blob.url.toList) s.hub
    return (.ok (), ⟨blobs, hub⟩)

/-- Revokes a blob, and tells if it was the active one. -/
def release (a : Artifact) (s : ServedTo η) : m (Unit × ServedTo η) := do
  match s.blobs.revoke a.id with
  | (false, blobs) => return ((), { s with blobs := blobs })
  | (true, blobs) =>
    let hub ← tell .closed s.hub
    return ((), ⟨blobs, hub⟩)

/-- The surface that keeps artifacts as blobs. -/
def surfaceTo : Surface (StateT (ServedTo η) m) where
  create document := modifyGet (create document)
  display a := display tell a
  release a := release tell a

end

/-- The surface that keeps artifacts as blobs and tells a hub's clients of them. -/
def surface [Monad m] [Journal m] (wire : Wire m κ) : Surface (StateT (Served κ) m) :=
  surfaceTo fun message hub => hub.broadcast wire message

end Served

end LivePreview.Surface
