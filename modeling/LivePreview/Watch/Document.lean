import LivePreview.Watch.Loop

/-!
# Previewing a file

The preview of a document that is a file, named after it. One that is not there yet is waited for.
-/

namespace LivePreview.Watch

open Console (Journal)
open Preview (Surface)
open Settings (Layer)

variable {m : Type → Type} [Monad m] [Files m] [Journal m]

/-- The preview of a file on a surface. -/
def Subject.ofFile (surface : Surface m) (document settingsPath : String) (overrides : Layer) :
    Subject m where
  stage := ⟨Engine.typed, surface, Preview.readDocument document⟩
  name := Files.Path.shortName document
  settingsPath := settingsPath
  overrides := overrides

/-- The files to watch for the preview of a file. -/
def Targets.ofFile (cwd : Option (List Char)) (document settingsPath : String) : Targets :=
  .of cwd document.toList (some settingsPath.toList)

/-- Notes the directories that are watched. -/
def noteRoots (t : Targets) : m Unit := do
  (← t.roots).forM fun root => Journal.detail "watch" ("watching " ++ root)

/-- Notes that a document is not there yet. -/
def noteMissing (p : Subject m) (document : String) : m Unit := do
  if (← p.stage.document).isNone then
    Journal.note "warning" (document ++ " does not exist yet, waiting for it")

end LivePreview.Watch
