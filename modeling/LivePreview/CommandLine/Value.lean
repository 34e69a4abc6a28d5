import LivePreview.CommandLine.Flag
import LivePreview.Server.Address
import LivePreview.Settings.Basic

/-!
# Values on the command line

What is given on a command line, each target once at most, and how its value is read.
-/

namespace LivePreview.CommandLine

open Server (Ip)

/-- When output is to be coloured. -/
inductive ColorChoice where
  | auto
  | always
  | never
deriving DecidableEq, Repr

namespace ColorChoice

/-- The name of a choice. -/
def name : ColorChoice → String
  | auto => "auto"
  | always => "always"
  | never => "never"

/-- The choice of a name. -/
def ofName? (name : String) : Option ColorChoice :=
  [auto, always, never].find? fun c => c.name == name

end ColorChoice

/-- What is given at one level of a command line. -/
structure Given where
  color : Option ColorChoice
  config : Option String
  verbose : Bool
  debounce : Option Int
  loopGuard : Option Int
  saveOnly : Option Bool
  file : Option String
  output : Option String
  json : Bool
  interface : Option Ip
  port : Option Nat
deriving DecidableEq, Repr

/-- Nothing is given. -/
def Given.nothing : Given :=
  ⟨none, none, false, none, none, none, none, none, false, none, none⟩

/-- A target has been given. -/
def Given.has (g : Given) : Target → Bool
  | .file => g.file.isSome
  | .flag .color => g.color.isSome
  | .flag .config => g.config.isSome
  | .flag .verbose => g.verbose
  | .flag .debounce => g.debounce.isSome
  | .flag .loopGuard => g.loopGuard.isSome
  | .flag .saveOnly => g.saveOnly.isSome
  | .flag .output => g.output.isSome
  | .flag .json => g.json
  | .flag .interface => g.interface.isSome
  | .flag .port => g.port.isSome
  | .flag .help | .flag .version => false

/-- Why a value is no value of its target. -/
inductive ValueFault where
  /-- There is none. -/
  | missing
  /-- It is not one of those that can be given. -/
  | unknown (value : String)
  | refused (value reason : String)
deriving DecidableEq, Repr

/-! ## Numbers -/

/-- Why a text is no number of a range. -/
inductive NumberFault where
  | empty
  | digit
  | tooLarge
  | tooSmall
deriving DecidableEq, Repr

/-- The reason told for a fault. -/
def NumberFault.reason : NumberFault → String
  | empty => "cannot parse integer from empty string"
  | digit => "invalid digit found in string"
  | tooLarge => "number too large to fit in target type"
  | tooSmall => "number too small to fit in target type"

/-- Numbers are below this, and not below its negation. -/
def numberLimit : Int := Int.pow 2 63

/-- Reads on behind a number that digits have given so far. -/
def readDigits (negative : Bool) : Int → List Char → Except NumberFault Int
  | n, [] => .ok n
  | n, c :: cs =>
    if Text.isDecimal c then
      let digit : Int := c.toNat - '0'.toNat
      let n := if negative then 10 * n - digit else 10 * n + digit
      if numberLimit ≤ n then .error .tooLarge
      else if n < -numberLimit then .error .tooSmall
      else readDigits negative n cs
    else .error .digit

/-- The number that a text is: digits, which may follow a sign. -/
def readNumber : List Char → Except NumberFault Int
  | [] => .error .empty
  | ['-'] | ['+'] => .error .digit
  | '-' :: cs => readDigits true 0 cs
  | '+' :: cs => readDigits false 0 cs
  | cs => readDigits false 0 cs

/-- The number that a value is. -/
def numberOf (value : String) : Except ValueFault Int :=
  match readNumber value.toList with
  | .ok n => .ok n
  | .error e => .error (.refused value e.reason)

/-- Ports are below this. -/
def portLimit : Int := 65536

/-- The port that a value is. -/
def portOf (value : String) : Except ValueFault Nat :=
  match numberOf value with
  | .error e => .error e
  | .ok n =>
    if 0 ≤ n ∧ n < portLimit then .ok n.toNat
    else
      .error <| .refused value <|
        String.ofList (Text.signed n) ++ " is not in 0..=" ++
          String.ofList (Text.signed (portLimit - 1))

/-! ## Other values -/

/-- The path that a value is. -/
def pathOf (value : String) : Except ValueFault String :=
  if value.isEmpty then .error .missing else .ok value

/-- A value that has to be one of several. -/
def oneOf {α : Type} (found : Option α) (value : String) : Except ValueFault α :=
  match found with
  | some a => .ok a
  | none => .error (if value.isEmpty then .missing else .unknown value)

/-- The truth value of a name. -/
def truthOf? (name : String) : Option Bool :=
  if name == "true" then some true else if name == "false" then some false else none

/-- The address that a value is. -/
def addressOf (value : String) : Except ValueFault Ip :=
  match Ip.read? value.toList with
  | some ip => .ok ip
  | none => .error (.refused value "invalid IP address syntax")

/-- What is given once a value is added. -/
def Given.add (g : Given) (value : String) : Target → Except ValueFault Given
  | .file => do return { g with file := some (← pathOf value) }
  | .flag .color => do return { g with color := some (← oneOf (ColorChoice.ofName? value) value) }
  | .flag .config => do return { g with config := some (← pathOf value) }
  | .flag .debounce => do return { g with debounce := some (← numberOf value) }
  | .flag .loopGuard => do return { g with loopGuard := some (← numberOf value) }
  | .flag .saveOnly => do return { g with saveOnly := some (← oneOf (truthOf? value) value) }
  | .flag .output => do return { g with output := some (← pathOf value) }
  | .flag .interface => do return { g with interface := some (← addressOf value) }
  | .flag .port => do return { g with port := some (← portOf value) }
  | .flag .verbose => .ok { g with verbose := true }
  | .flag .json => .ok { g with json := true }
  | .flag .help | .flag .version => .ok g

/-- What is given at two levels, the inner one counting first. -/
def Given.onto (inner outer : Given) : Given where
  color := inner.color <|> outer.color
  config := inner.config <|> outer.config
  verbose := inner.verbose || outer.verbose
  debounce := inner.debounce <|> outer.debounce
  loopGuard := inner.loopGuard <|> outer.loopGuard
  saveOnly := inner.saveOnly <|> outer.saveOnly
  file := inner.file <|> outer.file
  output := inner.output <|> outer.output
  json := inner.json || outer.json
  interface := inner.interface <|> outer.interface
  port := inner.port <|> outer.port

/-- What is given of the settings. -/
def Given.settings (g : Given) : Settings.Layer := ⟨g.debounce, g.loopGuard, g.saveOnly⟩

end LivePreview.CommandLine
