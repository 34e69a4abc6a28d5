import LivePreview.CommandLine.Value

/-!
# Reading a command line

1. Arguments are read one by one. A value that is given waits until the next flag or document, or
   the end, and is only then looked at; so of two faults the earlier one counts, unless the later
   one is an argument that is not known.
2. An argument behind a flag that takes a value is that value, unless it looks like a flag itself.
   Behind two hyphens that stand alone no argument is a flag.
3. The first argument of the program that names a command ends the program's own arguments; the rest
   are the command's.
-/

namespace LivePreview.CommandLine

/-- Why a command line cannot be used. -/
inductive Fault where
  | value (target : Target) (fault : ValueFault)
  | repeated (target : Target)
  /-- A value is given to a flag that takes none. -/
  | unexpectedValue (flag : Flag) (value : String)
  | unknownArgument (text : String)
  | unknownCommand (name : String)
  | missingFile
  /-- No command is given to the program, which is told under its name. -/
  | missingCommand (program : String)
deriving DecidableEq, Repr

/-- What may be asked about. -/
inductive Topic where
  | level (l : Level)
  /-- The command that tells about commands. -/
  | help
deriving DecidableEq, Repr

/-- Why nothing is run. -/
inductive Refusal where
  | fault (level : Level) (fault : Fault)
  /-- Help is asked for. -/
  | help (topic : Topic)
  /-- Nothing is given, so that help is called for. -/
  | helpNeeded
  | version
deriving DecidableEq, Repr

/-- A value that waits to be looked at. -/
structure Pending where
  target : Target
  values : List String
deriving DecidableEq, Repr

/-- How far a level is read. -/
structure Reading where
  given : Given
  pending : Option Pending
  /-- The flag whose value may come next. -/
  awaited : Option Flag
  /-- Two hyphens have been read. -/
  plain : Bool
  /-- The document has been read. -/
  hasFile : Bool
deriving DecidableEq, Repr

namespace Reading

/-- Nothing has been read. -/
def start : Reading := ⟨.nothing, none, none, false, false⟩

/-- The value of a flag whose value is left out. -/
def impliedValue : String := "true"

/-- Adds a value to what is given. -/
def store (r : Reading) (target : Target) (value : String) : Except Fault Reading :=
  if r.given.has target then .error (.repeated target)
  else
    match r.given.add value target with
    | .ok given => .ok { r with given := given }
    | .error e => .error (.value target e)

/-- Looks at the value that waits. -/
def settle (r : Reading) : Except Fault Reading :=
  match r.pending with
  | none => .ok r
  | some ⟨target, values⟩ =>
    let r := { r with pending := none }
    match values, target with
    | value :: _, target => r.store target value
    | [], .flag f =>
      if f.arity = .value then .error (.value target .missing) else r.store target impliedValue
    | [], .file => .error (.value target .missing)

/-- Reads a flag that takes a value; `attached` is the value that is written to it. -/
def takeFlag (r : Reading) (f : Flag) (attached : Option String) : Except Fault Reading :=
  match r.settle with
  | .error e => .error e
  | .ok r =>
    match attached with
    | some value => ({ r with awaited := none }).store (.flag f) value
    | none => .ok { r with pending := some ⟨.flag f, []⟩, awaited := some f }

/-- Reads the argument behind a flag that takes a value. -/
def takeValue (r : Reading) (f : Flag) (value : String) : Reading :=
  { r with pending := some ⟨.flag f, [value]⟩, awaited := none }

/-- Reads the document. -/
def takeFile (r : Reading) (value : String) : Except Fault Reading :=
  match r.settle with
  | .error e => .error e
  | .ok r => .ok { r with pending := some ⟨.file, [value]⟩, hasFile := true }

end Reading

/-- A fault at a level. -/
def atLevel {α : Type} (l : Level) : Except Fault α → Except Refusal α
  | .ok a => .ok a
  | .error e => .error (.fault l e)

/-- Reads a flag that takes no value. -/
def switch (l : Level) (r : Reading) (f : Flag) : Except Refusal Reading := do
  let r ← atLevel l r.settle
  match f with
  | .help => .error (.help (.level l))
  | .version => .error .version
  | f => atLevel l (({ r with awaited := none }).store (.flag f) Reading.impliedValue)

/-- Reads an argument that starts with two hyphens; `text` is behind them. -/
def readLong (l : Level) (r : Reading) (text : List Char) : Except Refusal Reading :=
  let name := String.ofList (text.takeWhile (· != '='))
  let attached :=
    match text.dropWhile (· != '=') with
    | [] => none
    | _ :: value => some (String.ofList value)
  match l.flagOfLong? name with
  | none => .error (.fault l (.unknownArgument ("--" ++ name)))
  | some f =>
    match f.arity, attached with
    | .nothing, some value => .error (.fault l (.unexpectedValue f value))
    | .nothing, none => switch l r f
    | _, attached => atLevel l (r.takeFlag f attached)

/-- The value that is written to a letter. -/
def attachedTo : List Char → Option String
  | [] => none
  | '=' :: value => some (String.ofList value)
  | value => some (String.ofList value)

/-- Reads letters behind a hyphen. -/
def readShort (l : Level) : Reading → List Char → Except Refusal Reading
  | r, [] => .ok r
  | r, c :: cs =>
    match l.flagOfShort? c with
    | none => .error (.fault l (.unknownArgument (String.ofList ['-', c])))
    | some f =>
      if f.arity = .nothing then
        match switch l r f with
        | .error e => .error e
        | .ok r => readShort l r cs
      else atLevel l (r.takeFlag f (attachedTo cs))

/-- A text looks like a number: digits, one point behind the first character, and an exponent mark
that is neither first nor last. -/
def looksNumeric (first dot mark : Bool) : List Char → Bool
  | [] => true
  | c :: cs =>
    if Text.isDecimal c then looksNumeric false dot mark cs
    else if c == '.' && !dot && !mark && !first then looksNumeric false true mark cs
    else if (c == 'e' || c == 'E') && !mark && !first && !cs.isEmpty then
      looksNumeric false dot true cs
    else false

/-- Letters behind a hyphen are a number below zero that the awaited flag takes. -/
def isNegativeValue (r : Reading) (cs : List Char) : Bool :=
  match r.awaited with
  | some f => f.admitsNegative && looksNumeric true false false cs
  | none => false

/-- Reads an argument that is no flag. -/
def readPlain (l : Level) (r : Reading) (arg : String) : Except Refusal Reading :=
  match l with
  | .program =>
    if r.plain && ((Verb.ofName? arg).isSome || arg == "help") then
      .error (.fault l (.unknownArgument arg))
    else .error (.fault l (.unknownCommand arg))
  | .command _ =>
    if r.hasFile then .error (.fault l (.unknownArgument arg)) else atLevel l (r.takeFile arg)

/-- Reads an argument that may be a value of the awaited flag. -/
def readValue (l : Level) (r : Reading) (arg : String) : Except Refusal Reading :=
  match r.awaited with
  | some f => if r.plain then readPlain l r arg else .ok (r.takeValue f arg)
  | none => readPlain l r arg

/-- Reads an argument. -/
def readArgument (l : Level) (r : Reading) (arg : String) : Except Refusal Reading :=
  if r.plain then readPlain l r arg
  else
    match arg.toList with
    | ['-', '-'] => .ok { r with plain := true }
    | '-' :: '-' :: text => readLong l r text
    | '-' :: c :: cs =>
      if isNegativeValue r (c :: cs) then readValue l r arg else readShort l r (c :: cs)
    | _ => readValue l r arg

/-- Reads the arguments of a command. -/
def readCommand (verb : Verb) (args : List String) : Except Refusal Given := do
  let l := Level.command verb
  let r ← args.foldlM (readArgument l) .start
  let r ← atLevel l r.settle
  if r.given.file.isNone then .error (.fault l .missingFile) else .ok r.given

/-- The help that words ask for. -/
def readHelp : List String → Refusal
  | [] => .help (.level .program)
  | name :: more =>
    let topic : Option (Topic × Level) :=
      match Verb.ofName? name with
      | some verb => some (.level (.command verb), .command verb)
      | none => if name == "help" then some (.help, .program) else none
    match topic, more with
    | none, _ => .fault .program (.unknownCommand name)
    | some (topic, _), [] => .help topic
    | some (_, l), name :: _ => .fault l (.unknownCommand name)

/-- Reads the arguments of the program, and those of the command that they name. -/
def readProgram (program : String) : Reading → List String → Except Refusal (Verb × Given)
  | r, [] => do
    let r ← atLevel .program r.settle
    if r.given = .nothing then .error .helpNeeded
    else .error (.fault .program (.missingCommand program))
  | r, arg :: args =>
    let verb := if r.plain || r.awaited.isSome then none else Verb.ofName? arg
    let isHelp := !r.plain && r.awaited.isNone && arg == "help"
    match verb with
    | some verb => do
      let inner ← readCommand verb args
      let r ← atLevel .program r.settle
      return (verb, inner.onto r.given)
    | none =>
      if isHelp then .error (readHelp args)
      else
        match readArgument .program r arg with
        | .error e => .error e
        | .ok r => readProgram program r args

end LivePreview.CommandLine
