import LivePreview.Script.Lexer
import LivePreview.Script.Node

/-!
# The parser's steps

A step reads tokens and may report or fail. `Rules` ties the grammar's recursion: a rule asks for
another by its `Goal`, and each such call takes one unit of a bound that exceeds any depth that
the source can cause. Trying and looking ahead restore the state as a value. What a script's kind
decides is settled at its end: `isModule` and `namesAwait` tell how `await` is to be read.
-/

namespace LivePreview.Script.Parser

open Text (Cursor)

/-- Where in the grammar a step stands. -/
structure Context where
  /-- The operator `in` may stand here. -/
  allowsIn : Bool
  inGenerator : Bool
  inAsync : Bool
  inFunction : Bool
  isTop : Bool
  /-- What is declared here exists elsewhere. -/
  isAmbient : Bool
  allowsConditionalType : Bool
  inDecorator : Bool

/-- The context of a script's statements; in a module they may wait. -/
def Context.top (isAsync : Bool) : Context :=
  ⟨true, false, isAsync, false, true, false, true, false⟩

/-- What a step reads and writes. -/
structure State where
  token : Token
  /-- Where the token starts. -/
  place : Cursor
  /-- What stands behind the token. -/
  behind : Cursor
  /-- The end of the token before. -/
  lastStop : Nat
  context : Context
  /-- Reports on tokens, last first. -/
  tokenReports : List Report
  /-- Reports of the grammar, last first. -/
  reports : List Report
  /-- Reports that count unless the script is a module, last first. -/
  scriptReports : List Report
  /-- Something that only a module holds has been read. -/
  isModule : Bool
  /-- Outside of functions `await` has been read as a name. -/
  namesAwait : Bool
  /-- Starts of shorthand initializers that must turn out to belong to a pattern. -/
  shorthands : List Nat
  /-- Starts of arrays and objects that end in a comma, with its place. -/
  lastCommas : List (Nat × Nat)
  /-- What the comments in front of the current token tell of what starts there. -/
  annotations : List Annotation
  /-- Comments, last first. -/
  comments : List Comment
  /-- Types that are put to values, last first. -/
  types : List Node

/-- The script is refused with this as its first report. -/
structure Refusal where
  report : Report
  /-- The report is one on a token. -/
  isLexical : Bool
  /-- The step failed at a closing brace that nothing has taken yet. -/
  atBrace : Bool

/-- Where a statement stands. -/
inductive Place where
  | list
  | labelled
  | ifBranch
  | loopBody
deriving DecidableEq

/-- A part of the grammar that others recur to. -/
inductive Goal where
  | expression
  | assignment (allowsReturnType : Bool)
  /-- Operators that bind tighter than `level`. -/
  | binary (level : Nat)
  | unary
  | leftSide
  /-- What `new` is applied to. -/
  | constructed
  | statement (place : Place)
  | type
  /-- A type without operators around it. -/
  | plainType
  | pattern
  | parameters
deriving DecidableEq

/-- A step below the grammar's recursion. -/
abbrev Step := StateT State (Except Refusal)

/-- The rules that a step may recur to, and a bound on the rounds of a loop. -/
structure Rules where
  apply : Goal → Step Node
  bound : Nat

/-- A step of the parser. -/
abbrev P := ReaderT Rules Step

/-- The node of a goal. -/
def parse (goal : Goal) : P Node := do (← read).apply goal

/-! ## Reports -/

/-- The first report of a state in which a step fails: tokens come first, then the grammar. -/
def State.refusal (s : State) (last : Report) (atBrace : Bool) : Refusal :=
  match s.tokenReports.getLast?, s.reports.getLast? with
  | some r, _ => ⟨r, true, atBrace⟩
  | none, some r => ⟨r, false, atBrace⟩
  | none, none => ⟨last, false, atBrace⟩

/-- The script is refused here. -/
def failAt {α : Type} (diagnostic : Diagnostic) (offset : Nat) : P α := do
  let s ← get
  throw (s.refusal (.pointing diagnostic offset) (s.token.isMark "\x7d"))

/-- The current token. -/
def token : P Token := do return (← get).token

/-- The first byte of the current token. -/
def start : P Nat := do return (← get).token.span.start

/-- The script is refused at the current token. -/
def fail {α : Type} (diagnostic : Diagnostic) : P α := do failAt diagnostic (← start)

/-- The current token is the first of its line and starts a mark that a merge leaves behind: seven
equals signs, or seven angle brackets or bars with a space behind them. -/
def atConflictMarker : P Bool := do
  let s ← get
  let isMarker (c : Char) : Bool := (List.replicate 7 c ++ [' ']).isPrefixOf s.place.rest
  return s.token.afterLineEnd &&
    (isMarker '<' || isMarker '>' || isMarker '|' ||
      (List.replicate 7 '=').isPrefixOf s.place.rest)

/-- The current token cannot stand here. -/
def unexpected {α : Type} : P α := do
  fail (if ← atConflictMarker then .conflictMarker else .unexpectedToken)

/-- Something is wrong, but reading goes on. -/
def reportAt (diagnostic : Diagnostic) (offset : Nat) : P Unit :=
  modify fun s => { s with reports := .pointing diagnostic offset :: s.reports }

/-- A step between brackets: a closing brace at which it fails is taken by what closes them. -/
def enclosed {α : Type} (p : P α) : P α := fun rules s =>
  match p rules s with
  | .ok r => .ok r
  | .error refusal => .error { refusal with atBrace := false }

/-- A step inside a template. A closing brace at which it fails ends the substitution, and then
the template runs to the end of the source. -/
def substituted {α : Type} (p : P α) : P α := fun rules s =>
  match p rules s with
  | .ok r => .ok r
  | .error refusal =>
    if !refusal.atBrace then .error refusal
    else if refusal.isLexical then .error { refusal with atBrace := false }
    else
      let last := s.behind.offset + Text.byteLength s.behind.rest - 1
      .error ⟨.pointing .unterminatedString last, true, false⟩

/-! ## Tokens -/

/-- The state with a token that has been read. -/
def State.enter (s : State) (read : Lexer.Read) : State :=
  { s with
    token := read.token, place := read.place, behind := read.behind
    comments := read.comments.reverse ++ s.comments
    tokenReports := read.reports.reverse ++ s.tokenReports }

/-- Goes on behind a token that is a name here, whatever it is elsewhere. -/
def advanceName : P Unit := modify fun s =>
  let opening := s.token.isMark "=" || s.token.isMark "("
  let read := Lexer.next s.behind false opening
  { s with
    lastStop := s.token.span.stop
    annotations := read.comments.filterMap Comment.annotation? }.enter read

/-- Goes on to the next token; a word that means something by itself has no escapes. -/
def advance : P Unit := do
  let t ← token
  if t.kind == .word && t.escaped && Token.knownWords.contains t.text then
    reportAt .escapedKeyword t.span.start
  advanceName

/-- Reads the current token again, in another way. -/
def rescan (how : Cursor → Bool → Lexer.Read) : P Unit := modify fun s =>
  s.enter (how s.place s.token.afterLineEnd)

/-- The current token is this mark. -/
def at? (sign : String) : P Bool := do return (← token).isMark sign

/-- The current token is this word. -/
def atWord (name : String) : P Bool := do return (← token).isWord name

/-- The current token is of this kind. -/
def atKind (kind : Token.Kind) : P Bool := do return (← token).kind == kind

/-- Nothing is left, or what is left is no token. -/
def atEnd : P Bool := do
  let t ← token
  return t.kind == .endOfText || t.kind == .unknown

/-- Goes past a mark, if it is there. -/
def eat (sign : String) : P Bool := do
  if ← at? sign then advance; return true
  return false

/-- Goes past a word, if it is there. -/
def eatWord (name : String) : P Bool := do
  if ← atWord name then advance; return true
  return false

/-- The current token is not the one that must be here; what comes takes its place. -/
def failExpecting {α : Type} (wanted : String) : P α := enclosed do
  if ← atConflictMarker then fail .conflictMarker
  fail (.expected wanted (← token).shown)

/-- Goes past a mark that must be there. -/
def expect (sign : String) : P Unit := do
  if ← at? sign then advance else failExpecting sign

/-- Goes past a word that must be there. -/
def expectWord (name : String) : P Unit := do
  if ← atWord name then advance else failExpecting name

/-- The comments in front of the current token tell this of what starts here. -/
def annotated (a : Annotation) : P Bool := do return (← get).annotations.contains a

/-- A node from `start` up to the token before the current one. -/
def node (start : Nat) (form : Form) : P Node := do
  return .mk ⟨start, (← get).lastStop⟩ form

/-- A type is put to a value. -/
def noteType (type : Node) : P Unit := modify fun s => { s with types := type :: s.types }

/-- A type is put to a value, if it is there. -/
def noteTypes (types : Option Node) : P Unit :=
  match types with
  | some type => noteType type
  | none => return

/-- A statement may end here without a semicolon. -/
def mayEnd : P Bool := do
  let t ← token
  return t.isMark ";" || t.isMark "\x7d" || t.kind == .endOfText || t.afterLineEnd

/-- Ends a statement, at a semicolon or where one may be left out. -/
def endStatement : P Unit := do
  if ← eat ";" then return
  if ← mayEnd then return
  failAt .missingSemicolon (← get).lastStop

/-! ## Trying -/

/-- The result of a step, or nothing, with the state as before, if it fails. -/
def attempt {α : Type} (p : P α) : P (Option α) := fun rules s =>
  match p rules s with
  | .ok (a, s') => .ok (some a, s')
  | .error _ => .ok (none, s)

/-- The result of an optional step; the state is as before when there is none. -/
def attemptSome {α : Type} (p : P (Option α)) : P (Option α) := fun rules s =>
  match p rules s with
  | .ok (some a, s') => .ok (some a, s')
  | _ => .ok (none, s)

/-- What a step would answer; failure counts as no. -/
def ahead (p : P Bool) : P Bool := fun rules s =>
  match p rules s with
  | .ok (a, _) => .ok (a, s)
  | .error _ => .ok (false, s)

/-- What would hold behind the current token. -/
def nextIs (p : P Bool) : P Bool := ahead do advance; p

/-- A step in a changed context. -/
def within {α : Type} (change : Context → Context) (p : P α) : P α := do
  let outer := (← get).context
  modify fun s => { s with context := change outer }
  let a ← p
  modify fun s => { s with context := outer }
  return a

/-- The current context. -/
def context : P Context := do return (← get).context

/-! ## Loops -/

/-- Repeats a step while it has a result. -/
def many {α : Type} (step : P (Option α)) : P (List α) := do
  go (← read).bound []
where
  /-- The results so far, last first. -/
  go : Nat → List α → P (List α)
    | 0, acc => return acc.reverse
    | n + 1, acc => do
      match ← step with
      | some a => go n (a :: acc)
      | none => return acc.reverse

/-- Improves a value while a step can. -/
def improve {α : Type} (a : α) (step : α → P (Option α)) : P α := do
  go (← read).bound a
where
  /-- The value so far. -/
  go : Nat → α → P α
    | 0, a => return a
    | n + 1, a => do
      match ← step a with
      | some b => go n b
      | none => return a

/-- Items separated by commas up to `closing`, which is not read; with the place of a comma behind
the last item. -/
def separated {α : Type} (closing : String) (item : P α) : P (List α × Option Nat) := enclosed do
  if (← at? closing) || (← atEnd) then return ([], none)
  let first ← item
  let (items, comma?) ← improve ([first], (none : Option Nat)) fun (acc, comma?) => do
    if comma?.isSome || (← at? closing) || (← atEnd) then return none
    let t ← token
    if !t.isMark "," then fail (.expectedSeparator "," closing t.shown)
    advance
    if ← at? closing then return some (acc, some t.span.start)
    return some ((← item) :: acc, none)
  return (items.reverse, comma?)

/-- The node holds what dots gather. -/
def isRest : Node → Bool
  | .mk _ (.rest _) | .mk _ (.parameter _ _ (.mk _ (.rest _))) => true
  | _ => false

/-- Items separated by commas up to `closing`, of which only the last may have dots. -/
def separatedWithRest (closing : String) (misplaced : Diagnostic) (item : P Node) :
    P (List Node × Option Node) := do
  let (items, _) ← separated closing do
    let n ← item
    if isRest n && (← at? ",") then
      if !(← nextIs (at? closing)) then failAt misplaced n.start
      if !(← context).isAmbient then reportAt .commaBehindRest (← start)
    return n
  match items.getLast? with
  | some last => if isRest last then return (items.dropLast, some last) else return (items, none)
  | none => return ([], none)

/-! ## Names -/

/-- A word that cannot be a name here is reported. -/
def checkName (t : Token) : P Unit := do
  let c ← context
  if t.text == "await" then
    if c.inAsync then reportAt .awaitAsName t.span.start
    else if c.isTop then modify fun s => { s with namesAwait := true }
  if t.text == "yield" && c.inGenerator then reportAt .yieldAsName t.span.start

/-- A word may stand for a value here. -/
def isReference (t : Token) : P Bool := do
  let c ← context
  return t.isName && !(t.text == "await" && c.inAsync) && !(t.text == "yield" && c.inGenerator)

/-- A name that is bound here. -/
def bindingName : P Node := do
  let t ← token
  if !t.isName then
    if t.isReserved then fail (.reservedName t.text) else unexpected
  checkName t
  advanceName
  node t.span.start (.name t.text)

/-- A name that is used here. -/
def referenceName : P Node := do
  let t ← token
  if !t.isName then unexpected
  checkName t
  advanceName
  node t.span.start (.name t.text)

/-- Any word, as the name of a property. -/
def propertyWord : P Node := do
  let t ← token
  if t.kind != .word then unexpected
  advanceName
  node t.span.start (.name t.text)

/-- A string that is a literal. -/
def stringLiteral : P Node := do
  let t ← token
  if t.kind != .string then unexpected
  advance
  node t.span.start (.string t.value)

end LivePreview.Script.Parser
