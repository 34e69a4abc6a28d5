import LivePreview.Console.Journal
import LivePreview.Files
import LivePreview.Preview.Surface
import LivePreview.Text.Numeral

/-!
# A directory as a surface

Every artifact is a file of its own in one directory, numbered in the order they are made; the file
is removed when the artifact is taken back. A number is spent even if its file cannot be written.
-/

namespace LivePreview.Surface

open Console (Journal)
open Preview (Artifact SurfaceError Surface)

/-- Artifacts in a directory. -/
structure Directory where
  path : String
  /-- Numbers spent so far. They have 64 bits, enough for fewer than `2 ^ 64` documents. -/
  spent : Nat
  /-- The path of the artifact that is shown. -/
  current : Option String
deriving DecidableEq, Repr

namespace Directory

/-- No artifact was made yet. -/
def start (path : String) : Directory := ⟨path, 0, none⟩

/-- The name of the file of a number. -/
def fileName (id : Nat) : String := "preview-" ++ String.ofList (Text.decimal id) ++ ".html"

/-- The path of the file of a number. -/
def pathOf (d : Directory) (id : Nat) : String := Files.Path.join d.path (fileName id)

/-- The topic of notes on files that stay behind. -/
def topic : String := "preview"

variable {m : Type → Type} [Monad m] [Files m]

/-- Writes a document to a new file. -/
def create (document : String) (d : Directory) : m (Except SurfaceError Artifact × Directory) := do
  match ← Files.createDirectories d.path with
  | .error _ => return (.error (.failed "create directory for"), d)
  | .ok () =>
    let d := { d with spent := d.spent + 1 }
    let path := d.pathOf d.spent
    match ← Files.write path (Text.encode document) with
    | .error _ => return (.error (.failed "write"), d)
    | .ok () => return (.ok ⟨d.spent, path⟩, d)

/-- Takes a file for the one that is shown, if it is there. -/
def display (a : Artifact) (d : Directory) : m (Except SurfaceError Unit × Directory) := do
  if ← Files.isFile a.location then return (.ok (), { d with current := some a.location })
  else return (.error (.unavailable (a.location ++ " disappeared before display")), d)

/-- Removes a file. -/
def release [Journal m] (a : Artifact) (d : Directory) : m (Unit × Directory) := do
  let d := if d.current = some a.location then { d with current := none } else d
  match ← Files.remove a.location with
  | .ok () => pure ()
  | .error e => Journal.detail topic ("failed to remove " ++ a.location ++ ": " ++ e.message)
  return ((), d)

/-- The surface that keeps artifacts in a directory. -/
def surface [Journal m] : Surface (StateT Directory m) where
  create document := create document
  display a := display a
  release a := release a

end Directory

end LivePreview.Surface
