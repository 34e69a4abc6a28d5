import LivePreview.Text.Numeral

/-!
# Commands and flags

The commands of the program and the flags that each level of its command line knows. A level is the
program itself or one of its commands; flags of the program are known at every level, and what a
command is told of them counts first.
-/

namespace LivePreview.CommandLine

/-- A command of the program. -/
inductive Verb where
  | render
  | extract
  | watch
  | serve
deriving DecidableEq, Repr

namespace Verb

/-- All commands, in the order shown. -/
def all : List Verb := [render, extract, watch, serve]

/-- The name of a command. -/
def name : Verb → String
  | render => "render"
  | extract => "extract"
  | watch => "watch"
  | serve => "serve"

/-- The short name of a command. -/
def shortName : Verb → String
  | render => "r"
  | extract => "x"
  | watch => "w"
  | serve => "s"

/-- What a command does. -/
def summary : Verb → String
  | render => "Render a document once"
  | extract => "Print the fenced blocks found in a document, grouped by channel"
  | watch => "Re-render into a directory whenever the document changes"
  | serve => "Serve a live, sandboxed preview over HTTP"

/-- The command of a name. -/
def ofName? (name : String) : Option Verb :=
  all.find? fun v => v.name == name || v.shortName == name

end Verb

/-- Where on the command line an argument stands. -/
inductive Level where
  | program
  | command (verb : Verb)
deriving DecidableEq, Repr

/-- What a flag is followed by. -/
inductive Arity where
  | nothing
  | value
  /-- A value that may be left out. -/
  | optionalValue
deriving DecidableEq, Repr

/-- A flag. -/
inductive Flag where
  | color
  | config
  | verbose
  | debounce
  | loopGuard
  | saveOnly
  | output
  | json
  | interface
  | port
  | help
  | version
deriving DecidableEq, Repr

namespace Flag

/-- The name of a flag. -/
def long : Flag → String
  | color => "color"
  | config => "config"
  | verbose => "verbose"
  | debounce => "debounce"
  | loopGuard => "loop-guard"
  | saveOnly => "save-only"
  | output => "output"
  | json => "json"
  | interface => "interface"
  | port => "port"
  | help => "help"
  | version => "version"

/-- The letter of a flag, if it has one. -/
def short? : Flag → Option Char
  | config => some 'C'
  | verbose => some 'v'
  | output => some 'o'
  | interface => some 'i'
  | port => some 'p'
  | help => some 'h'
  | version => some 'V'
  | color | debounce | loopGuard | saveOnly | json => none

/-- What a flag is followed by. -/
def arity : Flag → Arity
  | verbose | json | help | version => .nothing
  | saveOnly => .optionalValue
  | color | config | debounce | loopGuard | output | interface | port => .value

/-- The value of a flag may be a number below zero. -/
def admitsNegative : Flag → Bool
  | debounce | loopGuard => true
  | _ => false

/-- The name of a flag's value. -/
def valueName : Flag → String
  | color => "COLOR"
  | config => "CONFIG"
  | debounce | loopGuard => "MS"
  | saveOnly => "SAVE_ONLY"
  | output => "OUTPUT"
  | interface => "INTERFACE"
  | port => "PORT"
  | verbose | json | help | version => ""

/-- A flag with its value, as it is shown. -/
def shown (f : Flag) : String :=
  match f.arity with
  | .nothing => "--" ++ f.long
  | .value => "--" ++ f.long ++ " <" ++ f.valueName ++ ">"
  | .optionalValue => "--" ++ f.long ++ " [<" ++ f.valueName ++ ">]"

end Flag

namespace Level

/-- The flags of the program that every level knows. -/
def shared : List Flag := [.color, .config, .verbose, .debounce, .loopGuard, .saveOnly]

/-- The flags that a level knows of its own. -/
def own : Level → List Flag
  | program => []
  | command .render | command .watch => [.output]
  | command .extract => [.json]
  | command .serve => [.interface, .port]

/-- The items of two lists in turn, from the first list first. -/
def inTurn : List Flag → List Flag → List Flag
  | a :: as, b :: bs => a :: b :: inTurn as bs
  | [], bs => bs
  | as, [] => as

/-- The flags that a level knows, in the order shown: each list of flags counts its own places, so
that those of equal place stand together. -/
def flags : Level → List Flag
  | program => shared ++ [.help, .version]
  | command verb => inTurn shared (own (command verb)) ++ [.help]

/-- The flag of a name. -/
def flagOfLong? (l : Level) (name : String) : Option Flag := l.flags.find? fun f => f.long == name

/-- The flag of a letter. -/
def flagOfShort? (l : Level) (c : Char) : Option Flag := l.flags.find? fun f => f.short? == some c

end Level

/-- What a value is for. -/
inductive Target where
  /-- The document of a command. -/
  | file
  | flag (f : Flag)
deriving DecidableEq, Repr

/-- A target as it is shown. -/
def Target.shown : Target → String
  | file => "<FILE>"
  | flag f => f.shown

end LivePreview.CommandLine
