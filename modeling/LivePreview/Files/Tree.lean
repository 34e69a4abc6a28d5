import LivePreview.Files.Path
import LivePreview.Text.Bytes
import LivePreview.Text.Numeral

/-!
# A tree of files

Files and directories below one directory. `find` walks a path from there; every operation answers
as a file system would.
-/

namespace LivePreview.Files

/-- Why an operation on files fails. -/
inductive FileError where
  | notFound
  | alreadyExists
  | notDirectory
  | isDirectory
  | nameTooLong
  /-- A null character in a path. -/
  | nullInName
  /-- The bytes of a file are no text. -/
  | notText
  /-- Any other refusal of the system, with its number. -/
  | other (code : Nat) (text : String)
deriving DecidableEq, Repr

/-- The message of a failure. -/
def FileError.message : FileError → String
  | notFound => "No such file or directory (os error 2)"
  | alreadyExists => "File exists (os error 17)"
  | notDirectory => "Not a directory (os error 20)"
  | isDirectory => "Is a directory (os error 21)"
  | nameTooLong => "File name too long (os error 36)"
  | nullInName => "file name contained an unexpected NUL byte"
  | notText => "stream did not contain valid UTF-8"
  | other code text => text ++ " (os error " ++ String.ofList (Text.decimal code) ++ ")"

/-- What a name in a tree stands for. -/
inductive Item where
  | file (bytes : ByteArray)
  | directory

/-- Files are compared byte by byte. -/
instance : DecidableEq Item
  | .file a, .file b =>
    match ByteArray.instDecidableEq a b with
    | isTrue h => isTrue (congrArg Item.file h)
    | isFalse h => isFalse fun he => h (Item.file.inj he)
  | .directory, .directory => isTrue rfl
  | .file _, .directory => isFalse nofun
  | .directory, .file _ => isFalse nofun

/-- Files and directories by their places; the place above all is a directory. -/
structure Tree where
  items : List (List (List Char) × Item)

namespace Tree

/-- No files. -/
def empty : Tree := ⟨[]⟩

/-- What is at a place. -/
def item? (t : Tree) (place : List (List Char)) : Option Item :=
  if place.isEmpty then some .directory else t.items.lookup place

/-- The tree with an item put at a place. -/
def set (t : Tree) (place : List (List Char)) (item : Item) : Tree :=
  if (t.items.lookup place).isSome then
    ⟨t.items.map fun (p, old) => (p, if p == place then item else old)⟩
  else ⟨t.items ++ [(place, item)]⟩

/-- The tree without what is at a place. -/
def erase (t : Tree) (place : List (List Char)) : Tree :=
  ⟨t.items.filter fun (p, _) => p != place⟩

/-- The longest name in a directory, in bytes. -/
def maxNameLength : Nat := 255

/-- The longest path, in bytes. -/
def maxPathLength : Nat := 4095

/-- A name is too long for a directory. -/
def isTooLong (name : List Char) : Bool := maxNameLength < Text.byteLength name

/-- The place that steps lead to. All but the last have to be directories. -/
def walk (t : Tree) : List (List Char) → List Component → Except FileError (List (List Char))
  | place, [] => .ok place
  | place, c :: cs =>
    match t.item? place with
    | none => .error .notFound
    | some (.file _) => .error .notDirectory
    | some .directory =>
      match c with
      | .name text =>
        if isTooLong text then .error .nameTooLong else walk t (place ++ [text]) cs
      | .above => walk t place.dropLast cs
      | .root => walk t [] cs
      | .here => walk t place cs

/-- A path that only a directory can have: it ends in a slash. -/
def asksDirectory (path : String) : Bool := path.toList.getLast? == some '/'

/-- Why a text is no path at all. -/
def pathFault? (path : String) : Option FileError :=
  if path.toList.contains '\x00' then some .nullInName
  else if maxPathLength < path.utf8ByteSize then some .nameTooLong
  else none

/-- The place of a path. -/
def place (t : Tree) (path : String) : Except FileError (List (List Char)) :=
  match pathFault? path with
  | some e => .error e
  | none => if path.isEmpty then .error .notFound else t.walk [] (Path.steps path.toList)

/-- What is at a path. -/
def find (t : Tree) (path : String) : Except FileError Item :=
  match t.place path with
  | .error e => .error e
  | .ok place =>
    match t.item? place with
    | none => .error .notFound
    | some (.file bytes) => if asksDirectory path then .error .notDirectory else .ok (.file bytes)
    | some .directory => .ok .directory

/-- The bytes of a file. -/
def read (t : Tree) (path : String) : Except FileError ByteArray :=
  match t.find path with
  | .error e => .error e
  | .ok (.file bytes) => .ok bytes
  | .ok .directory => .error .isDirectory

/-- The tree with a file written. -/
def write (t : Tree) (path : String) (bytes : ByteArray) : Except FileError Tree :=
  match t.place path with
  | .error e => .error e
  | .ok place =>
    if asksDirectory path then .error .isDirectory
    else
      match t.item? place with
      | some .directory => .error .isDirectory
      | some (.file _) => .ok (t.set place (.file bytes))
      | none =>
        match t.item? place.dropLast with
        | some .directory => .ok (t.set place (.file bytes))
        | some (.file _) => .error .notDirectory
        | none => .error .notFound

/-- The tree with the directories along components; `place` is where they start. -/
def makeAlong (t : Tree) : List (List Char) → List Component → Except FileError Tree
  | _, [] => .ok t
  | place, c :: cs =>
    let next := match c with
      | .name text => place ++ [text]
      | .above => place.dropLast
      | .root => []
      | .here => place
    match t.item? next with
    | some .directory => makeAlong t next cs
    | some (.file _) => .error (if cs.isEmpty then .alreadyExists else .notDirectory)
    | none =>
      if (next.getLast?).any isTooLong then .error .nameTooLong
      else makeAlong (t.set next .directory) next cs

/-- The tree with a directory at a path, and with those above it. -/
def createDirectories (t : Tree) (path : String) : Except FileError Tree :=
  match pathFault? path with
  | some e => .error e
  | none => t.makeAlong [] (Path.components path.toList)

/-- The tree with a file written, and with the directories it is in. -/
def put (t : Tree) (path : String) (bytes : ByteArray) : Except FileError Tree :=
  match t.createDirectories (String.ofList ((Path.parent? path.toList).getD [])) with
  | .error e => .error e
  | .ok t => t.write path bytes

/-- The tree without a file. -/
def remove (t : Tree) (path : String) : Except FileError Tree :=
  match t.find path with
  | .error e => .error e
  | .ok .directory => .error .isDirectory
  | .ok (.file _) =>
    match t.place path with
    | .error e => .error e
    | .ok place => .ok (t.erase place)

/-- There is a file at a path. -/
def isFile (t : Tree) (path : String) : Bool :=
  match t.find path with
  | .ok (.file _) => true
  | _ => false

/-- There is a directory at a path. -/
def isDirectory (t : Tree) (path : String) : Bool :=
  match t.find path with
  | .ok .directory => true
  | _ => false

/-- The files of a tree, with their places. -/
def files (t : Tree) : List (List (List Char) × ByteArray) :=
  t.items.filterMap fun (place, item) =>
    match item with
    | .file bytes => some (place, bytes)
    | .directory => none

end Tree

end LivePreview.Files
