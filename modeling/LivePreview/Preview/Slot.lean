import LivePreview.Preview.Surface

/-!
# The slot of the live artifact

A slot holds the one artifact that is live. A new one is shown before the old one is taken back, and
the old one is taken back even if the new one fails.
-/

namespace LivePreview.Preview

/-- The live artifact, if there is one. -/
structure Slot where
  live : Option Artifact
deriving DecidableEq, Repr

namespace Slot

/-- Nothing is live. -/
def empty : Slot := ⟨none⟩

variable {m : Type → Type} [Monad m]

/-- Takes the live artifact back. -/
def clear (slot : Slot) (surface : Surface m) : m Slot := do
  match slot.live with
  | none => return empty
  | some artifact =>
    surface.release artifact
    return empty

/-- Makes the artifact of a document live, if the surface takes it, in place of the one before. -/
def install (slot : Slot) (surface : Surface m) (document : String) :
    m (Except SurfaceError Artifact × Slot) := do
  let presented ← surface.present document
  let slot ← slot.clear surface
  match presented with
  | .ok artifact => return (.ok artifact, ⟨some artifact⟩)
  | .error e => return (.error e, slot)

end Slot

end LivePreview.Preview
