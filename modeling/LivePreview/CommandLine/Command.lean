import LivePreview.CommandLine.Help
import LivePreview.Files.Path

/-!
# Commands

A command line, read: what is to be done, and under which settings.
-/

namespace LivePreview.CommandLine

open Server (Ip)

/-- What is to be done. -/
inductive Command where
  /-- The page goes to a file, if one is given. -/
  | render (file : String) (output : Option String)
  | extract (file : String) (json : Bool)
  | watch (file output : String)
  | serve (file : String) (interface : Ip) (port : Nat)
deriving DecidableEq, Repr

/-- A command line. -/
structure Invocation where
  color : ColorChoice
  /-- The path of the settings file. -/
  config : String
  verbose : Bool
  overrides : Settings.Layer
  command : Command
deriving DecidableEq, Repr

/-- The command that is given. -/
def Command.ofGiven (verb : Verb) (file : String) (g : Given) : Command :=
  match verb with
  | .render => render file g.output
  | .extract => extract file g.json
  | .watch => watch file (g.output.getD defaultDirectory)
  | .serve => serve file (g.interface.getD defaultInterface) (g.port.getD defaultPort)

namespace Invocation

/-- The command line that is given. -/
def ofGiven (verb : Verb) (file : String) (g : Given) : Invocation where
  color := g.color.getD .auto
  config := g.config.getD defaultConfig
  verbose := g.verbose
  overrides := g.settings
  command := .ofGiven verb file g

/-- The command line of the program's name and its arguments. -/
def read (name : Option String) (args : List String) : Except Refusal Invocation :=
  let shown := (name.bind fun n => Files.Path.fileName? n.toList).map String.ofList
  match readProgram (shown.getD programName) .start args with
  | .error e => .error e
  | .ok (verb, g) =>
    match g.file with
    | some file => .ok (ofGiven verb file g)
    | none => .error (.fault (.command verb) .missingFile)

end Invocation

end LivePreview.CommandLine
