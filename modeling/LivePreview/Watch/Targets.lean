import LivePreview.Files
import LivePreview.Preview.Scheduler

/-!
# Watched files

1. The document and the settings file are watched, through the directories they are in. An event
   that may have changed content is a signal if one of its paths is watched; the document comes
   first.
2. Files that editors keep beside the ones they edit never count.
3. Paths are compared by their components from the root on. Those of the watched files are told
   once, and those of an event when it is looked at; relative ones are below the working directory.
-/

namespace LivePreview.Watch

open Files
open Preview (Change)

/-- What a preview is told of the files. -/
inductive Signal where
  | changed (change : Change)
  | settingsChanged
deriving DecidableEq, Repr

/-- What happened to files. -/
inductive EventKind where
  | any
  | access
  | create
  | modify
  /-- Times, owners or rights changed, and nothing else. -/
  | metadata
  | remove
  | other
deriving DecidableEq, Repr

/-- An event that may have changed content. -/
def EventKind.changesContent : EventKind → Bool
  | create | modify | remove => true
  | any | access | metadata | other => false

/-- The extensions of files that editors keep for themselves. -/
def temporaryExtensions : List String := ["bck", "bak", "backup", "swp", "swo", "tmp"]

/-- A file that an editor keeps for itself. -/
def isTemporary (path : List Char) : Bool :=
  let name := (Path.fileName? path).getD []
  let extension := (Path.extension? path).getD []
  (temporaryExtensions.any fun e => e.toList == extension) || name.getLast? == some '~' ||
    name.head? == some '.'

/-- The files that are watched, by their components from the root on. -/
structure Targets where
  document : List Component
  settings : Option (List Component)
deriving DecidableEq, Repr

namespace Targets

/-- The files at paths, which are taken in the working directory of now. -/
def of (cwd : Option (List Char)) (document : List Char) (settings : Option (List Char)) :
    Targets :=
  ⟨Path.absolute cwd document, settings.map (Path.absolute cwd)⟩

variable (t : Targets) (cwd : Option (List Char))

/-- A path is that of the document. -/
def isDocument (path : List Char) : Bool := Path.absolute cwd path == t.document

/-- A path is that of the settings file. -/
def isSettings (path : List Char) : Bool := t.settings == some (Path.absolute cwd path)

/-- The signal of paths that count, one after the other. The document is the end of it; the settings
file is kept in mind as `found`, since the document may follow. -/
def signalOf (found : Option Signal) : List (List Char) → Option Signal
  | [] => found
  | path :: paths =>
    if t.isDocument cwd path then some (.changed .save)
    else signalOf (if t.isSettings cwd path then some .settingsChanged else found) paths

/-- The signal of an event, whose paths are taken in the working directory. -/
def classify (kind : EventKind) (paths : List (List Char)) : Option Signal :=
  if kind.changesContent then t.signalOf cwd none (paths.filter fun p => !isTemporary p) else none

/-- The directories that the files are in, as far as they exist, each once. -/
def roots {m : Type → Type} [Monad m] [Files m] : m (List String) := do
  let parents := (t.document :: t.settings.toList).filterMap fun file =>
    (Path.parent? (Path.ofComponents file)).map String.ofList
  parents.eraseDups.filterM Files.isDirectory

end Targets

end LivePreview.Watch
