import LivePreview.Console.Note
import LivePreview.Files
import LivePreview.Settings.Document

/-!
# Loading settings

The layer of a settings file lies below the overrides of the command line. Where there is no file
the overrides stand alone; what cannot be read or used is an error.
-/

namespace LivePreview.Settings

open Console (Note)
open Files (FileError)

/-- Why settings cannot be loaded. -/
inductive LoadError where
  | unreadable (path : String) (error : FileError)
  /-- `source` is the text of the file. -/
  | unusable (source : List Char) (error : DocumentError)
deriving DecidableEq, Repr

namespace LoadError

/-- The message of an error. -/
def message : LoadError → String
  | unreadable path _ => "IO error when reading `" ++ path ++ "`"
  | unusable .. => "Config file parsing error"

/-- What lies behind an error. -/
def cause : LoadError → String
  | unreadable _ e => e.message
  | unusable source e => e.shown source

end LoadError

/-- What a file says of the settings, and the names in it that do not count. At a path that cannot
be one there is no file. -/
def readContent (path : String) (content : Except FileError ByteArray) :
    Except LoadError (Layer × List String) :=
  match content with
  | .error .notFound | .error .notDirectory | .error .nameTooLong | .error .nullInName =>
    .ok (.empty, [])
  | content =>
    match Files.textOf content with
    | .error e => .error (.unreadable path e)
    | .ok text =>
      match readDocument text.toList with
      | .error e => .error (.unusable text.toList e)
      | .ok read => .ok read

/-- The note on names that do not count. -/
def ignoredNote (path : String) (names : List String) : Note :=
  let listed := ", ".intercalate names
  ⟨"warning", "unknown fields in " ++ Files.Path.shortName path ++ ", ignoring: " ++ listed, false⟩

/-- The notes that loading calls for. -/
def loadNotes (path : String) (ignored : List String) (warnings : List Warning) : List Note :=
  (if ignored.isEmpty then [] else [ignoredNote path ignored]) ++
    warnings.map fun w => ⟨"config", w.text, false⟩

/-- The settings of a file under overrides, with the notes that loading calls for. -/
def load (path : String) (overrides : Layer) (content : Except FileError ByteArray) :
    Except LoadError (Settings × List Note) :=
  match readContent path content with
  | .error e => .error e
  | .ok (layer, ignored) =>
    let (settings, warnings) := ofLayer (overrides.onto layer)
    .ok (settings, loadNotes path ignored warnings)

end LivePreview.Settings
