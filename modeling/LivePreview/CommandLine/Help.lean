import LivePreview.CommandLine.Reader
import LivePreview.Text.Lines

/-!
# Help

What is shown to those who ask for help, and to those whose command line cannot be used.
-/

namespace LivePreview.CommandLine

/-- The name of the program. -/
def programName : String := "fenceplay"

/-- The version of the program. -/
def programVersion : String := "0.3.0"

/-- What the program does. -/
def programSummary : String :=
  "live playground for fenced html/css/js/ts blocks in markdown documents"

/-- What the command that tells about commands does. -/
def helpSummary : String := "Print this message or the help of the given subcommand(s)"

/-- What a document is. -/
def fileSummary : String := "Markdown document containing fenced blocks"

/-- The path of the settings file unless another is given. -/
def defaultConfig : String := "fenceplay.toml"

/-- The directory that is written to unless another is given. -/
def defaultDirectory : String := "preview"

/-- The address that is served on unless another is given. -/
def defaultInterface : Server.Ip := .v4 127 0 0 1

/-- The port that is served on unless another is given. -/
def defaultPort : Nat := 5277

/-- A value that is taken if none is given. -/
def byDefault (value : String) : String := " [default: " ++ value ++ "]"

/-- Values of which one is taken. -/
def oneOfThese (values : List String) : String :=
  "[possible values: " ++ ", ".intercalate values ++ "]"

/-- The names of the values that a flag takes, if they are few. -/
def Flag.values : Flag → List String
  | .color => [ColorChoice.auto, .always, .never].map ColorChoice.name
  | .saveOnly => ["true", "false"]
  | _ => []

/-- What a flag does at a level. -/
def Flag.summary (f : Flag) (l : Level) : String :=
  match f with
  | .color => "Control colored output (auto, always, never)" ++ byDefault ColorChoice.auto.name
  | .config => "Settings file path" ++ byDefault defaultConfig
  | .verbose => "Enable verbose output for debugging"
  | .debounce => "Delay after a change before re-rendering, in milliseconds (100-2000)"
  | .loopGuard => "Wall-clock budget per loop before it is aborted, in milliseconds (50-1000)"
  | .saveOnly => "Render only when the document is saved, without debounce"
  | .output =>
    match l with
    | .command .watch => "Directory receiving preview-<n>.html" ++ byDefault defaultDirectory
    | _ => "Write the document here instead of stdout"
  | .json => "Print as JSON"
  | .interface =>
    "Network interface to bind (e.g., 127.0.0.1, 0.0.0.0)" ++
      byDefault (String.ofList defaultInterface.shown)
  | .port => "Port number to listen on" ++ byDefault (String.ofList (Text.decimal defaultPort))
  | .help => "Print help"
  | .version => "Print version"

/-- The line on how a level is used. -/
def Level.usage : Level → String
  | program => "Usage: " ++ programName ++ " [OPTIONS] <COMMAND>"
  | command verb => "Usage: " ++ programName ++ " " ++ verb.name ++ " [OPTIONS] <FILE>"

/-- Rows of two columns, the second starting two blanks behind the longest entry of the first. -/
def table (rows : List (String × String)) : List String :=
  let width := rows.foldl (fun w row => max w row.1.length) 0
  rows.map fun (left, right) =>
    "  " ++ left ++ "".pushn ' ' (width - left.length + 2) ++ right

/-- The first column of a flag. -/
def Flag.entry (f : Flag) : String :=
  match f.short? with
  | some c => String.ofList ['-', c] ++ ", " ++ f.shown
  | none => "    " ++ f.shown

/-- The rows of a level's flags. -/
def Level.flagRows (l : Level) : List (String × String) :=
  l.flags.map fun f =>
    (f.entry, f.summary l ++ if f.values.isEmpty then "" else " " ++ oneOfThese f.values)

/-- The rows of the program's commands. -/
def commandRows : List (String × String) :=
  (Verb.all.map fun v => (v.name, v.summary ++ " [alias: " ++ v.shortName ++ "]")) ++
    [("help", helpSummary)]

/-- The lines shown about a level. -/
def Level.help (l : Level) : List String :=
  match l with
  | program =>
    [programSummary, "", l.usage, "", "Commands:"] ++ table commandRows ++ ["", "Options:"] ++
      table l.flagRows
  | command verb =>
    [verb.summary, "", l.usage, "", "Arguments:"] ++ table [("<FILE>", fileSummary)] ++
      ["", "Options:"] ++ table l.flagRows

/-- The lines shown about a topic. -/
def Topic.lines : Topic → List String
  | level l => l.help
  | help =>
    [helpSummary, "", "Usage: " ++ programName ++ " help [COMMAND]...", "", "Arguments:"] ++
      table [("[COMMAND]...", "Print help for the subcommand(s)")]

/-- What a fault is, on one line unless an argument has more. -/
def Fault.text : Fault → String
  | value target .missing =>
    "a value is required for '" ++ target.shown ++ "' but none was supplied"
  | value target (.unknown given) => "invalid value '" ++ given ++ "' for '" ++ target.shown ++ "'"
  | value target (.refused given reason) =>
    "invalid value '" ++ given ++ "' for '" ++ target.shown ++ "': " ++ reason
  | repeated target => "the argument '" ++ target.shown ++ "' cannot be used multiple times"
  | unexpectedValue f given =>
    "unexpected value '" ++ given ++ "' for '" ++ (Target.flag f).shown ++
      "' found; no more were expected"
  | unknownArgument text => "unexpected argument '" ++ text ++ "' found"
  | unknownCommand name => "unrecognized subcommand '" ++ name ++ "'"
  | missingFile => "the following required arguments were not provided:"
  | missingCommand program => "'" ++ program ++ "' requires a subcommand but one was not provided"

/-- The lines below a fault. -/
def Fault.details : Fault → List String
  | value (.flag f) .missing | value (.flag f) (.unknown _) =>
    if f.values.isEmpty then [] else ["  " ++ oneOfThese f.values]
  | missingFile => ["  " ++ Target.file.shown]
  | missingCommand _ =>
    ["  [subcommands: " ++ ", ".intercalate (commandRows.map Prod.fst) ++ "]"]
  | _ => []

/-- The lines shown for a refusal. -/
def Refusal.lines : Refusal → List String
  | fault level f =>
    ["error: " ++ f.text] ++ f.details ++
      ["", level.usage, "", "For more information, try '--help'."]
  | help topic => topic.lines
  | helpNeeded => Level.program.help
  | version => [programName ++ " " ++ programVersion]

/-- A refusal is what was asked for. -/
def Refusal.isAnswer : Refusal → Bool
  | help _ | version => true
  | fault .. | helpNeeded => false

/-- The text shown for a refusal. -/
def Refusal.text (r : Refusal) : String := "".intercalate (r.lines.map (· ++ "\n"))

/-- The first line shown for a refusal. -/
def Refusal.firstLine (r : Refusal) : String := String.ofList (Text.firstLine r.text.toList)

/-- The status that the program ends with for a refusal. -/
def Refusal.status (r : Refusal) : Nat := if r.isAnswer then 0 else 2

end LivePreview.CommandLine
