import LivePreview.Digest
import LivePreview.Settings.Load

/-!
# The settings in force

A handle holds the settings in force and the digest of the file content they came from. A reload
whose content has that digest changes nothing, and neither does one that fails.
-/

namespace LivePreview.Settings

open Console (Note)
open Files (FileError)

/-- The settings in force. -/
structure Handle where
  current : Settings
  /-- The digest of the content that was loaded; 0 before any. -/
  digest : Nat
deriving DecidableEq, Repr

namespace Handle

/-- The handle at the start of the program. -/
def initial : Handle := ⟨.default, 0⟩

/-- The digest of a file's content. -/
def digestOf (content : ByteArray) : Nat := Digest.number content.toList

/-- Puts loaded settings in force. The digest stays as it is if the file cannot be read. -/
def init (h : Handle) (settings : Settings) (content : Except FileError ByteArray) : Handle :=
  match content with
  | .ok bytes => ⟨settings, digestOf bytes⟩
  | .error _ => ⟨settings, h.digest⟩

/-- The content that counts: an unreadable or missing file counts as empty. -/
def contentOf (content : Except FileError ByteArray) : ByteArray :=
  match content with
  | .ok bytes => bytes
  | .error _ => ByteArray.empty

/-- Loads the file again if its content has changed. Answers the new settings with notes, `none` if
nothing has changed, or why the file cannot be loaded. -/
def reload (path : String) (overrides : Layer) (content : Except FileError ByteArray) (h : Handle) :
    Except LoadError (Option (Settings × List Note)) × Handle :=
  let digest := digestOf (contentOf content)
  if digest = h.digest then (.ok none, h)
  else
    match load path overrides content with
    | .error e => (.error e, h)
    | .ok (settings, notes) => (.ok (some (settings, notes)), ⟨settings, digest⟩)

end Handle

end LivePreview.Settings
