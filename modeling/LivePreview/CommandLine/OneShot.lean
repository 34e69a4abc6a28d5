import LivePreview.CommandLine.Command
import LivePreview.Console.Journal
import LivePreview.Document.Listing
import LivePreview.Files
import LivePreview.Guard.Registry
import LivePreview.Rendering
import LivePreview.Settings.Handle

/-!
# Commands that end

1. Settings are loaded before any command; what cannot be loaded ends the program.
2. `render` writes the page of a document once, `extract` lists its blocks. A script that cannot be
   transformed is told of beside its page and is no failure.
-/

namespace LivePreview.CommandLine

open Console (Journal)
open Files (FileError)
open Guard (Guards)

/-- Why a command fails. -/
structure Failure where
  message : String
  /-- What lies behind it. -/
  cause : String
deriving DecidableEq, Repr

/-- A text with every line indented. -/
def indented (text : String) : String :=
  "    " ++ text.foldl (fun acc c => if c = '\n' then acc ++ "\n    " else acc.push c) ""

/-- What is shown for a failure. -/
def Failure.report (f : Failure) : String :=
  "Error: " ++ f.message ++ "\n\nCaused by:\n" ++ indented f.cause ++ "\n"

/-- The failure of an operation on a file. -/
def Failure.ofFile (action path : String) (e : FileError) : Failure :=
  ⟨"Failed to " ++ action ++ " " ++ path, e.message⟩

/-- How a command ends. -/
structure Ending where
  status : Nat
  /-- What is shown besides the output. -/
  complaint : String
deriving DecidableEq, Repr

/-- The ending of a command that did what it was to do. -/
def Ending.success : Ending := ⟨0, ""⟩

/-- The ending of a command that failed. -/
def Ending.failure (f : Failure) : Ending := ⟨1, f.report⟩

variable {m : Type → Type} [Monad m] [Files m] [Journal m]

/-- The text of all settings, in details. -/
def settingsText (s : Settings) : String :=
  let number (n : Nat) : String := String.ofList (Text.decimal n)
  "PreviewSettings \x7b debounce_milliseconds: " ++ number s.debounce ++
    ", loop_guard_milliseconds: " ++ number s.loopGuard ++
    ", update_on_save_only: " ++ (if s.saveOnly then "true" else "false") ++ " \x7d"

/-- Puts the settings of a command line in force. -/
def loadSettings (i : Invocation) : m (Except Failure Settings.Handle) := do
  let content ← Files.read i.config
  match Settings.load i.config i.overrides content with
  | .error e => return .error ⟨e.message, e.cause⟩
  | .ok (settings, notes) =>
    notes.forM fun n => Journal.say (.note n)
    Journal.detail "config" (settingsText settings)
    return .ok (Settings.Handle.initial.init settings content)

/-- The text of a document. -/
def readText (file : String) : m (Except Failure String) := do
  match Files.textOf (← Files.read file) with
  | .ok text => return .ok text
  | .error e => return .error (.ofFile "read" file e)

/-- Writes a page to a file, with the directories it is in. -/
def writePage (file path page : String) : m (Except Failure Unit) := do
  let parent := String.ofList ((Files.Path.parent? path.toList).getD [])
  let made ← if parent.isEmpty then pure (.ok ()) else Files.createDirectories parent
  match made with
  | .error e => return .error (.ofFile "create" parent e)
  | .ok () =>
    match ← Files.write path (Text.encode page) with
    | .error e => return .error (.ofFile "write" path e)
    | .ok () =>
      Journal.note "render" (file ++ " → " ++ path)
      return .ok ()

/-- What is told of a script that could not be transformed. -/
def complaintOf (page : Rendered) : String :=
  match page.error? with
  | none => ""
  | some e => Console.bold (Console.colored .brightRed "[render]") ++ " " ++ e.message ++ "\n"

/-- Renders a document once. -/
def renderFile [Guards m] (file : String) (output : Option String) (settings : Settings) :
    m Ending := do
  match ← readText file with
  | .error f => return .failure f
  | .ok text =>
    let guard ← Guards.guard settings.budget
    let page := render Engine.typed guard text.toList
    match output with
    | none =>
      Journal.say (.output page.page)
      return ⟨0, complaintOf page⟩
    | some path =>
      match ← writePage file path page.page with
      | .ok () => return ⟨0, complaintOf page⟩
      | .error f => return ⟨1, complaintOf page ++ f.report⟩

/-- Lists the blocks of a document. -/
def extractFile (file : String) (json : Bool) : m Ending := do
  match ← readText file with
  | .error f => return .failure f
  | .ok text =>
    let bundle := Document.extract text.toList
    Journal.say (.output ((if json then bundle.json else bundle.listing) ++ "\n"))
    return .success

/-- Loads the settings and runs the command, if it is one that ends by itself; else answers the
settings that it is to be run under. -/
def run [Guards m] (i : Invocation) : m (Except Settings.Handle Ending) := do
  match ← loadSettings i with
  | .error f => return .ok (.failure f)
  | .ok handle =>
    match i.command with
    | .render file output => return .ok (← renderFile file output handle.current)
    | .extract file json => return .ok (← extractFile file json)
    | .watch .. | .serve .. => return .error handle

end LivePreview.CommandLine
