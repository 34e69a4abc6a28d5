import LivePreview.Files.Tree
import LivePreview.Text.Bytes

/-!
# Files

What the program asks of a file system.
-/

namespace LivePreview

open Files (FileError)

/-- A monad in which files can be read and written. -/
class Files (m : Type → Type) where
  /-- The bytes of a file. -/
  read : String → m (Except FileError ByteArray)
  /-- Writes a file, in place of what it held. -/
  write : String → ByteArray → m (Except FileError Unit)
  /-- Makes a directory and those above it. -/
  createDirectories : String → m (Except FileError Unit)
  /-- Removes a file. -/
  remove : String → m (Except FileError Unit)
  /-- There is a file at a path. -/
  isFile : String → m Bool
  /-- There is a directory at a path. -/
  isDirectory : String → m Bool

instance {σ : Type} {m : Type → Type} [Monad m] [Files m] : Files (StateT σ m) where
  read path := StateT.lift (Files.read path)
  write path bytes := StateT.lift (Files.write path bytes)
  createDirectories path := StateT.lift (Files.createDirectories path)
  remove path := StateT.lift (Files.remove path)
  isFile path := StateT.lift (Files.isFile path)
  isDirectory path := StateT.lift (Files.isDirectory path)

namespace Files

/-- The text of a file. -/
def textOf : Except FileError ByteArray → Except FileError String
  | .error e => .error e
  | .ok bytes =>
    match Text.decode? bytes with
    | some text => .ok text
    | none => .error .notText

end Files

end LivePreview
