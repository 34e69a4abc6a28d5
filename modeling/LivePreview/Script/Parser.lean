import LivePreview.Script.Parser.Module

/-!
# The parser

1. `statementRule` chooses the statement that a token starts.
2. `rules` ties the knot: with a bound of `n + 1` a goal's rule runs with the rules of bound `n`.
3. `parse` reads a whole script, or answers with the first thing that is wrong with it. Each token
   costs at most `stepsPerCharacter` recursions, which gives the bound.
-/

namespace LivePreview.Script.Parser

open Text (Cursor)

/-- A declared function as a statement. -/
def functionStatement (at0 : Nat) (isAsync : Bool) (place : Place) : P Node := do
  let isGenerator ← nextIs (at? "*")
  let n ← functionDeclaration at0 isAsync true false false
  if place != .list then
    if isAsync then reportAt .asyncInSingleStatement at0
    else if isGenerator then reportAt .generatorInSingleStatement at0
  return n

/-- A statement behind its decorators: an export or a class. -/
def decoratedStatement (at0 : Nat) : P Node := do
  let decos ← decorators
  if ← atWord "export" then return ← exportStatement (← start) decos
  let found ← modifiers false false
  if !(← atWord "class") then unexpected
  modifiedDeclaration at0 decos found

/-- A declaration if one starts here, and otherwise an expression. -/
def declarationOrExpression (at0 : Nat) : P Node := do
  if ← startsDeclaration then declaration at0 [] [] else expressionStatement

/-- The statement that a word starts. -/
def wordStatement (place : Place) (at0 : Nat) (word : String) : P Node := do
  match word with
  | "if" => ifStatement
  | "do" => doLoop
  | "while" => whileLoop
  | "for" => forLoop
  | "continue" => jumpStatement .continueTo
  | "break" => jumpStatement .breakTo
  | "with" => withStatement
  | "switch" => switchStatement
  | "throw" => throwStatement
  | "try" => tryStatement
  | "debugger" => advance; endStatement; node at0 .debugger
  | "class" =>
    let n ← classRest at0 [] true
    if place != .list then reportAt .classInSingleStatement at0
    return n
  | "export" => exportStatement at0 []
  | "return" => returnStatement
  | "var" => advance; variableStatement at0 .varKind place
  | "const" =>
    advance
    if ← eatWord "enum" then enumDeclaration at0 true
    else variableStatement at0 .constKind place
  | "let" =>
    if ← atLetDeclaration place then
      advance
      variableStatement at0 .letKind place
    else expressionStatement
  | "using" =>
    if ← atUsing false then
      advance
      variableStatement at0 .usingKind place
    else expressionStatement
  | "await" =>
    if ← atAwaitUsing then
      advance
      advance
      variableStatement at0 .awaitUsingKind place
    else expressionStatement
  | "async" =>
    if ← nextIsWord "function" then
      advance
      functionStatement at0 true place
    else declarationOrExpression at0
  | "import" => importStatement
  | "function" => functionStatement at0 false place
  | "enum" | "interface" | "type" | "module" | "namespace" | "declare" | "abstract" | "global"
  | "accessor" | "private" | "protected" | "public" | "readonly" | "static" =>
    declarationOrExpression at0
  | _ => expressionStatement

/-- The rule of `Goal.statement`. -/
def statementRule (place : Place) : P Node := do
  let t ← token
  let at0 := t.span.start
  let isEffectless ← annotated .effectlessFunction
  let n ←
    match t.kind with
    | .mark =>
      match t.text with
      | "\x7b" => blockStatement
      | ";" => advance; node at0 .empty
      | "@" => decoratedStatement at0
      | _ => expressionStatement
    | .word => wordStatement place at0 t.text
    | _ => expressionStatement
  if !isEffectless then return n
  match n with
  | .mk span (.exportDeclaration inner) =>
    return .mk span (.exportDeclaration (markDeclaration inner))
  | n => return markDeclaration n

/-- The rule of a goal. -/
def rule : Goal → P Node
  | .expression => expressionRule
  | .assignment allowsReturnType => assignmentRule allowsReturnType
  | .binary level => binaryRule level
  | .unary => unaryRule
  | .leftSide => leftSideRule
  | .constructed => constructedRule
  | .statement place => statementRule place
  | .type => typeRule
  | .plainType => plainTypeRule
  | .pattern => patternRule
  | .parameters => parametersRule

/-- The grammar with a bound on its recursion. -/
def rules : Nat → Rules
  | 0 => ⟨fun _ s => .error (s.refusal (.pointing .unexpectedToken s.token.span.start) false), 0⟩
  | n + 1 => ⟨fun goal s => rule goal (rules n) s, n + 1⟩

/-- More recursions than one character can cause. -/
def stepsPerCharacter : Nat := 12

/-- The state at a place where a script starts: its first token has been read. -/
def State.initial (place : Cursor) (isAsync : Bool) : State :=
  let first := Lexer.next place true false
  State.enter
    { token := first.token, place := first.place, behind := first.behind, lastStop := 0
      context := .top isAsync, tokenReports := [], reports := [], scriptReports := []
      isModule := false, namesAwait := false, shorthands := [], lastCommas := []
      annotations := first.comments.filterMap Comment.annotation?
      comments := [], types := [] } first

/-- The text of a first line that is for the shell, and the place behind it. -/
def hashbang? (source : List Char) : Option (List Char × Cursor) :=
  match source with
  | '#' :: '!' :: _ => some ((Cursor.start source).takeWhile fun c => !isLineTerminator c)
  | _ => none

/-- A whole script. -/
def script : P (List Node) := do
  let body ← statementList true
  if !(← atKind .endOfText) then unexpected
  return body

/-- What is wrong with a script that was read to its end, tokens first. -/
def State.allReports (s : State) : List Report :=
  let shorthand := s.shorthands.getLast?.map (Report.pointing .invalidShorthandInitializer)
  let markup := (s.comments.reverse.find? Comment.isMarkup).map fun c =>
    Report.pointing .markupCommentInModule c.span.start
  s.tokenReports.reverse ++ s.reports.reverse ++ shorthand.toList ++
    (if s.isModule then markup.toList else s.scriptReports.reverse)

end Parser

open Script.Parser in
/-- The script that a source is, or the first thing that is wrong with it. One in which `await` was
taken for a name is read again if it turns out to be a module, where it waits. -/
def parse (source : List Char) : Except Report Program := do
  let (hashbang, place) :=
    match hashbang? source with
    | some (text, behind) => (some (String.ofList text), behind)
    | none => (none, Text.Cursor.start source)
  let grammar := rules (stepsPerCharacter * (source.length + 2))
  let read (isAsync : Bool) : Except Report (List Node × State) :=
    (script grammar (.initial place isAsync)).mapError Refusal.report
  let (body, s) ← read false
  let (body, s) ← if s.isModule && s.namesAwait then read true else .ok (body, s)
  match s.allReports with
  | report :: _ => .error report
  | [] =>
    .ok { hashbang, body, types := s.types.reverse, comments := s.comments.reverse
          stop := Text.byteLength source }

end LivePreview.Script
