/-!
# Surfaces

A surface shows documents. It makes an artifact of a document, shows an artifact, and takes one
back; the first two may fail.
-/

namespace LivePreview.Preview

/-- A document on a surface. -/
structure Artifact where
  id : Nat
  /-- The path or address that it can be found under. -/
  location : String
deriving DecidableEq, Repr

/-- Why a surface fails. -/
inductive SurfaceError where
  | unavailable (reason : String)
  /-- Files could not be worked on; `action` is what was tried. -/
  | failed (action : String)
deriving DecidableEq, Repr

/-- The message of a failure. -/
def SurfaceError.message : SurfaceError → String
  | unavailable reason => "rendering surface unavailable: " ++ reason
  | failed action => "failed to " ++ action ++ " artifact"

/-- What shows documents. -/
structure Surface (m : Type → Type) where
  /-- Makes an artifact of a document. -/
  create : String → m (Except SurfaceError Artifact)
  /-- Shows an artifact in place of what is shown. -/
  display : Artifact → m (Except SurfaceError Unit)
  /-- Takes an artifact back. -/
  release : Artifact → m Unit

variable {m : Type → Type} [Monad m]

/-- Makes an artifact of a document and shows it. One that cannot be shown is taken back. -/
def Surface.present (surface : Surface m) (document : String) :
    m (Except SurfaceError Artifact) := do
  match ← surface.create document with
  | .error e => return .error e
  | .ok artifact =>
    match ← surface.display artifact with
    | .ok () => return .ok artifact
    | .error e =>
      surface.release artifact
      return .error e

end LivePreview.Preview
