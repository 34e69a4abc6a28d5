import LivePreview.Surface.Memory
import LivePreview.Watch.Document

/-!
# Scripted surroundings

What goes on around a loop, laid down beforehand: signals that have come already, what the document
is each time it is read, and what is written to files each time an artifact is shown. A wait without
a signal takes its full time, and nothing else takes any.
-/

namespace LivePreview.Watch

open Preview (Artifact Surface SurfaceError)

/-- What goes on around a loop. -/
structure Script where
  clock : Int
  signals : List Signal
  closing : Bool
  /-- What the document is, one entry for a reading; the program closes at the last. -/
  versions : List (Option String)
  /-- What is written, one entry for each time that an artifact is shown; the program closes at the
  time behind the last. -/
  edits : List (List (String × ByteArray))

namespace Script

/-- Nothing goes on. -/
def quiet : Script := ⟨0, [], false, [], []⟩

variable {m : Type → Type} [Monad m]

/-- The surroundings as the loop learns of them. -/
def outside : Outside (StateT Script m) where
  now := return (← get).clock
  receive wait := modifyGet fun s =>
    match s.signals with
    | signal :: signals => (some signal, { s with signals := signals })
    | [] => (none, { s with clock := s.clock + wait })
  closing := return (← get).closing

/-- The document of a reading. -/
def document : StateT Script m (Option String) := modifyGet fun s =>
  match s.versions with
  | [] => (none, s)
  | [last] => (last, { s with versions := [], closing := true })
  | version :: versions => (version, { s with versions := versions })

/-- The working directory: all paths of a tree are below its root. -/
def rootPath : Option (List Char) := some ['/']

/-- Writes a file, and signals it. -/
def write [Files m] (targets : Targets) (file : String × ByteArray) : StateT Script m Unit := do
  let _ ← Files.write file.1 file.2
  modify fun s =>
    { s with signals := s.signals ++ (targets.classify rootPath .modify [file.1.toList]).toList }

/-- Writes what is to be written at a time that an artifact is shown. -/
def edit [Files m] (targets : Targets) : StateT Script m Unit := do
  let s ← get
  match s.edits with
  | [] => set { s with closing := true }
  | files :: edits =>
    set { s with edits := edits }
    files.forM (write targets)

end Script

/-- A surface in memory, in scripted surroundings. -/
abbrev Scripted (m : Type → Type) := StateT Surface.Memory (StateT Script m)

namespace Scripted

variable {m : Type → Type} [Monad m]

/-- The surroundings as the loop learns of them. -/
def outside : Outside (Scripted m) where
  now := StateT.lift Script.outside.now
  receive wait := StateT.lift (Script.outside.receive wait)
  closing := StateT.lift Script.outside.closing

/-- The document of a reading. -/
def document : Scripted m (Option String) := StateT.lift Script.document

/-- A surface that writes what is to be written each time that an artifact is shown. -/
def surface [Files m] (targets : Targets) : Surface (Scripted m) where
  create := Surface.Memory.surface.create
  display a := do
    let displayed ← (Surface.Memory.surface.display a : Scripted m (Except SurfaceError Unit))
    StateT.lift (Script.edit targets)
    return displayed
  release := Surface.Memory.surface.release

end Scripted

end LivePreview.Watch
