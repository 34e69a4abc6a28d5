import LivePreview.CommandLine.OneShot
import LivePreview.Surface.Directory
import LivePreview.Watch.Document
import Std.Time.DateTime.Timestamp

/-!
# The program

The outermost layer: files, the clock and the terminal as they are. A watched file is read again and
again, and has changed when its content has.
-/

namespace LivePreview.Program

open CommandLine (Command Invocation)
open Console (Board Journal)
open Files (FileError)
open Guard (Guards Registry)
open Settings (Handle)
open Watch (Outside Signal Subject Targets)

/-- What a run of the program keeps. -/
structure Process where
  verbose : Bool
  board : IO.Ref Board
  registry : IO.Ref Registry

/-- A run of the program. -/
abbrev Running := ReaderT Process IO

/-- Why the system refused. -/
def refusal (code : UInt32) (text : String) : FileError :=
  match code.toNat with
  | 2 => .notFound
  | 17 => .alreadyExists
  | 20 => .notDirectory
  | 21 => .isDirectory
  | 36 => .nameTooLong
  | code => .other code text

/-- Why an operation failed. -/
def errorOf : IO.Error → FileError
  | .alreadyExists _ code text | .otherError code text | .resourceBusy code text
  | .resourceVanished code text | .unsupportedOperation code text | .hardwareFault code text
  | .unsatisfiedConstraints code text | .illegalOperation code text | .protocolError code text
  | .timeExpired code text | .interrupted _ code text | .noFileOrDirectory _ code text
  | .invalidArgument _ code text | .permissionDenied _ code text | .resourceExhausted _ code text
  | .inappropriateType _ code text | .noSuchThing _ code text => refusal code text
  | .unexpectedEof => .other 0 "unexpected end of file"
  | .userError text => .other 0 text

/-- An operation on files, with why it failed if it did. -/
def attempt {α : Type} (action : IO α) : Running (Except FileError α) := do
  match ← action.toBaseIO with
  | .ok a => return .ok a
  | .error e => return .error (errorOf e)

/-- The bytes of a file. -/
def bytesOf (path : String) : Running (Except FileError ByteArray) :=
  attempt (IO.FS.withFile path .read fun file => file.readBinToEnd)

/-- There is a directory at a path. -/
def isDirectory (path : String) : Running Bool := do
  match ← bytesOf path with
  | .error .isDirectory => return true
  | _ => return false

/-- The working directory, if it can be told. -/
def workingDirectory? : Running (Option (List Char)) := do
  match ← attempt IO.currentDir with
  | .ok directory => return some directory.toString.toList
  | .error _ => return none

/-- Makes a directory and those above it. -/
partial def createDirectories (path : String) : Running (Except FileError Unit) := do
  if path.isEmpty then return .ok ()
  match ← attempt (IO.FS.createDir path) with
  | .ok () => return .ok ()
  | .error .notFound =>
    match Files.Path.parent? path.toList with
    | none => return .error .notFound
    | some parent =>
      match ← createDirectories (String.ofList parent) with
      | .ok () => attempt (IO.FS.createDir path)
      | .error e => return .error e
  | .error e => return if ← isDirectory path then .ok () else .error e

/-- The time of day. -/
def timeOfDay : IO String := do
  let now ← Std.Time.Timestamp.now
  return Console.clock now.toSecondsSinceUnixEpoch.val.toNat

/-- Shows a text at once. -/
def display (text : String) : IO Unit := do
  let out ← IO.getStdout
  out.putStr text
  out.flush

instance : Journal Running where
  say e := do
    let process ← read
    let (text, board) := e.shown process.verbose (← timeOfDay) (← process.board.get)
    process.board.set board
    display text

instance : Files Running where
  read path := bytesOf path
  write path bytes := attempt (IO.FS.writeBinFile path bytes)
  createDirectories path := createDirectories path
  remove path := attempt (IO.FS.removeFile path)
  isFile path := return (← bytesOf path).isOk
  isDirectory path := isDirectory path

instance : Guards Running where
  guard budget := do
    let process ← read
    let registry ← process.registry.get
    let (guard, next) := registry.register budget
    process.registry.set next
    if (registry.find? budget).isNone then Journal.detail Guard.topic guard.madeText
    return guard

/-- The monad of a run that shows artifacts in a directory. -/
abbrev Watching := StateT Surface.Directory Running

/-- Watched files, with what they held when they were last looked at. -/
structure Lookout where
  targets : Targets
  seen : IO.Ref (List (String × Option ByteArray))

/-- What a file holds, if it can be read. -/
def content? (path : String) : Running (Option ByteArray) :=
  return (← bytesOf path).toOption

/-- The watched files as they are. -/
def Lookout.start (targets : Targets) (paths : List String) : Running Lookout := do
  let seen ← paths.mapM fun path => return (path, ← content? path)
  return ⟨targets, ← IO.mkRef seen⟩

/-- Looks at the watched files; the signal of the first that has changed. -/
def Lookout.look (l : Lookout) : Running (Option Signal) := do
  let seen ← l.seen.get
  for (path, old) in seen do
    let content ← content? path
    if content != old then
      l.seen.set (seen.map fun (p, c) => (p, if p == path then content else c))
      return l.targets.classify (← workingDirectory?) .modify [path.toList]
  return none

/-- The milliseconds between two looks at the files. -/
def interval : Nat := 20

/-- Looks at the files until one has changed, so many times at most. -/
def Lookout.await (l : Lookout) : Nat → Running (Option Signal)
  | 0 => l.look
  | n + 1 => do
    match ← l.look with
    | some signal => return some signal
    | none =>
      IO.sleep interval.toUInt32
      l.await n

/-- The surroundings as they are; the program runs until it is stopped. -/
def outside (l : Lookout) : Outside Watching where
  now := return (← IO.monoMsNow)
  receive wait := StateT.lift (l.await (wait / interval))
  closing := return false

/-- Takes turns without end. -/
partial def turns (p : Subject Watching) (outside : Outside Watching) (s : Watch.State) :
    Watching Unit := do
  let (more, s) ← Watch.turn p outside s
  if more then turns p outside s else let _ ← Watch.finish p s

/-- Keeps a page in a directory in step with a document. -/
def watch (i : Invocation) (file output : String) (handle : Handle) : Running Unit := do
  Journal.note "watch" (file ++ " → " ++ output)
  let targets := Targets.ofFile (← workingDirectory?) file i.config
  Watch.noteRoots targets
  let lookout ← Lookout.start targets [file, i.config]
  let subject := Subject.ofFile Surface.Directory.surface file i.config i.overrides
  let preview : Watching Unit := do
    Watch.noteMissing subject file
    Journal.detail "actor" "start"
    turns subject (outside lookout) (← Watch.start subject (outside lookout) handle)
  let _ ← preview.run (Surface.Directory.start output)

/-- Runs a command; answers the status to end with. -/
def run (i : Invocation) : Running Nat := do
  match ← CommandLine.run i with
  | .ok ending =>
    IO.eprint ending.complaint
    return ending.status
  | .error handle =>
    match i.command with
    | .watch file output =>
      watch i file output handle
      return 0
    | _ =>
      IO.eprintln "Error: there is no network to serve on"
      return 1

end LivePreview.Program

/-- Reads the command line and runs the command. -/
def main (args : List String) : IO UInt32 := do
  match LivePreview.CommandLine.Invocation.read (some (← IO.appPath).toString) args with
  | .error refusal =>
    if refusal.isAnswer then IO.print refusal.text else IO.eprint refusal.text
    return refusal.status.toUInt32
  | .ok invocation =>
    let process := ⟨invocation.verbose, ← IO.mkRef .empty, ← IO.mkRef .empty⟩
    let status ← (LivePreview.Program.run invocation).run process
    return status.toUInt32
