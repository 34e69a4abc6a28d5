import LivePreview.Script.Parser.Expression

/-!
# Statements

Variables, loops, branches, jumps. A word like `type` or `declare` starts a declaration only when
what follows it does; otherwise it is a name.
-/

namespace LivePreview.Script.Parser

/-- An expression in parentheses, as behind `while`. -/
def testInParentheses : P Node := do
  expect "("
  let test ← enclosed <| within (fun c => { c with allowsIn := true }) (parse .expression)
  expect ")"
  return test

/-- An expression in which `in` may stand. -/
def fullExpression : P Node := within (fun c => { c with allowsIn := true }) (parse .expression)

/-! ## Variables -/

/-- A pattern that takes a value apart. -/
def isStructured (n : Node) : Bool :=
  match n.form with
  | .arrayPattern .. | .objectPattern .. => true
  | _ => false

/-- A variable that needs a value and has none is reported. -/
def checkInitializer (binder : Binder) (n : Node) : P Unit := do
  match n.form with
  | .variable pattern none =>
    if (← context).isAmbient then return
    if isStructured pattern then reportAt .missingPatternInitializer pattern.start
    else if binder == .constKind then reportAt .missingConstInitializer pattern.stop
    else if binder == .usingKind || binder == .awaitUsingKind then
      reportAt .missingUsingInitializer pattern.start
  | _ => pure ()

/-- One variable of a declaration. -/
def variableItem (binder : Binder) : P Node := do
  let at0 ← start
  let pattern ← parse .pattern
  if (binder == .usingKind || binder == .awaitUsingKind) && isStructured pattern then
    reportAt .usingPattern pattern.start
  let bang ← token
  let definite := bang.isMark "!" && !bang.afterLineEnd && isNameNode pattern
  if definite then advance
  let question ← start
  if ← eat "?" then reportAt .optionalVariable question
  let type ← annotation?
  noteTypes type
  let value ← if ← eat "=" then some <$> assignment else pure none
  if definite then
    if value.isSome then reportAt .definiteWithInitializer bang.span.start
    else if type.isNone then reportAt .definiteWithoutType bang.span.start
  node at0 (.variable pattern value)

/-- The variables of a declaration, behind its keyword. -/
def variableItems (binder : Binder) : P (List Node) := do
  let first ← variableItem binder
  let rest ← many do
    if ← eat "," then some <$> variableItem binder else return none
  return first :: rest

/-- A variable statement, behind its keyword. -/
def variableStatement (at0 : Nat) (binder : Binder) (place : Place) : P Node := do
  let items ← within (fun c => { c with allowsIn := true }) do
    let check (n : Node) : P Node := do
      checkInitializer binder n
      return n
    let first ← variableItem binder >>= check
    let rest ← many do
      if ← eat "," then some <$> (variableItem binder >>= check) else return none
    return first :: rest
  endStatement
  let n ← node at0 (.variables binder items)
  if place != .list && binder != .varKind then reportAt .lexicalInSingleStatement at0
  return n

/-- `using` starts a declaration: a name follows on its line, or outside of a loop's head a brace,
which is then refused. -/
def atUsing (inFor : Bool) : P Bool := do
  if !(← atWord "using") then return false
  nextIs do
    let t ← token
    if t.afterLineEnd then return false
    if t.isMark "\x7b" then return !inFor
    if !t.isName then return false
    if inFor && t.isWord "of" then return ← nextIs (at? "=")
    return true

/-- `await using` starts a declaration. -/
def atAwaitUsing : P Bool := do
  if !(← atWord "await") then return false
  nextIs do
    if (← token).afterLineEnd then return false
    atUsing false

/-- `let` starts a declaration, unless what follows goes on an expression. Where no declaration
may stand, only a bracket makes it one. -/
def atLetDeclaration (place : Place) : P Bool := do
  let t ← token
  if !t.isWord "let" || t.escaped then return false
  nextIs do
    let t ← token
    if t.isWord "in" || t.isWord "instanceof" then return false
    if t.kind == .mark then
      if assignmentMarks.contains t.text || binaryMarks.contains t.text then return false
      if t.text == "." || t.text == "(" || t.text == ";" then return false
    return place == .list || t.isMark "["

/-! ## Blocks and branches -/

/-- A block. -/
def blockStatement : P Node := do
  let at0 ← start
  expect "\x7b"
  let body ← within (fun c => { c with allowsIn := true }) (statementList false)
  expect "\x7d"
  node at0 (.block body)

/-- An `if` statement. -/
def ifStatement : P Node := do
  let at0 ← start
  advance
  let test ← testInParentheses
  let whenTrue ← parse (.statement .ifBranch)
  let whenFalse ←
    if ← eatWord "else" then some <$> parse (.statement .ifBranch) else pure none
  node at0 (.ifElse test whenTrue whenFalse)

/-- One clause of a `switch`. -/
def switchClause : P (Option Node) := do
  if (← at? "\x7d") || (← atEnd) then return none
  let at0 ← start
  let test ←
    if ← eatWord "case" then some <$> fullExpression
    else if ← eatWord "default" then pure none
    else fail .missingSwitchClause
  expect ":"
  let body ← many do
    let t ← token
    if t.isMark "\x7d" || t.isWord "case" || t.isWord "default" || t.kind == .endOfText then
      return none
    let n ← parse (.statement .list)
    match n.form with
    | .variables .usingKind .. | .variables .awaitUsingKind .. => reportAt .usingInCase n.start
    | _ => pure ()
    return some n
  some <$> node at0 (.switchCase test body)

/-- A `switch` statement. -/
def switchStatement : P Node := do
  let at0 ← start
  advance
  let subject ← testInParentheses
  expect "\x7b"
  let cases ← enclosed (many switchClause)
  expect "\x7d"
  node at0 (.switchOn subject cases)

/-- The clause of a `try` statement that handles what was thrown. -/
def catchClause : P Node := do
  let at0 ← start
  advance
  let parameter ←
    if ← eat "(" then
      let p ← parse .pattern
      noteAnnotation
      expect ")"
      pure (some p)
    else pure none
  let body ← blockStatement
  node at0 (.catchClause parameter body)

/-- A `try` statement. -/
def tryStatement : P Node := do
  let at0 ← start
  advance
  let block ← blockStatement
  let handler ← if ← atWord "catch" then some <$> catchClause else pure none
  let finalizer ← if ← eatWord "finally" then some <$> blockStatement else pure none
  if handler.isNone && finalizer.isNone then reportAt .missingCatchOrFinally block.stop
  node at0 (.tryBlock block handler finalizer)

/-! ## Loops -/

/-- A `while` loop. -/
def whileLoop : P Node := do
  let at0 ← start
  advance
  let test ← testInParentheses
  let body ← parse (.statement .loopBody)
  node at0 (.whileLoop test body)

/-- A `do` loop; a semicolon behind it belongs to it and may be left out anywhere. -/
def doLoop : P Node := do
  let at0 ← start
  advance
  let body ← parse (.statement .loopBody)
  expectWord "while"
  let test ← testInParentheses
  discard (eat ";")
  node at0 (.doLoop body test)

/-- A `for` loop from its first semicolon on. -/
def forRest (at0 : Nat) (initial : Option Node) (isAwait : Bool) : P Node := do
  expect ";"
  match initial with
  | some n =>
    match n.form with
    | .variables .usingKind .. | .variables .awaitUsingKind .. => pure ()
    | .variables binder items => for item in items do checkInitializer binder item
    | _ => pure ()
  | none => pure ()
  let test ←
    if (← at? ";") || (← at? ")") then pure none else some <$> fullExpression
  expect ";"
  let step ← if ← at? ")" then pure none else some <$> fullExpression
  expect ")"
  if isAwait then reportAt .awaitInPlainFor at0
  let body ← parse (.statement .loopBody)
  node at0 (.forLoop initial test step body)

/-- A loop over the keys or the items of a collection, from `in` or `of` on. -/
def forCollection (at0 : Nat) (target : Node) (isAwait : Bool) : P Node := do
  let overKeys ← atWord "in"
  if overKeys then
    match target.form with
    | .variables .usingKind .. => reportAt (.usingInForIn false) target.start
    | .variables .awaitUsingKind .. => reportAt (.usingInForIn true) target.start
    | _ => pure ()
  advance
  let collection ← enclosed (if overKeys then fullExpression else innerAssignment)
  expect ")"
  if overKeys && isAwait then reportAt .awaitInPlainFor at0
  let body ← parse (.statement .loopBody)
  if overKeys then node at0 (.forInLoop target collection body)
  else node at0 (.forOfLoop isAwait target collection body)

/-- A loop whose head declares variables; the cursor is at their keyword. -/
def forVariables (at0 : Nat) (binder : Binder) (isAwait : Bool) : P Node := do
  let head0 ← start
  advance
  if binder == .awaitUsingKind then advance
  let items ← within (fun c => { c with allowsIn := false }) (variableItems binder)
  let head ← node head0 (.variables binder items)
  if (← atWord "in") || (← atWord "of") then forCollection at0 head isAwait
  else forRest at0 (some head) isAwait

/-- `let` in a loop's head starts a declaration. -/
def atLetInFor : P Bool := do
  if !(← atWord "let") then return false
  nextIs do
    let t ← token
    return (t.kind == .word && !t.isWord "in" && !t.isWord "of" && !t.isWord "instanceof") ||
      t.isMark "[" || t.isMark "\x7b" ||
      (t.isWord "of" && (← nextIs do
        let u ← token
        return u.isMark "=" || u.isMark ";" || u.isMark ":" || u.isMark "," || u.isWord "of" ||
          u.isWord "in"))

/-- A loop that starts with `for`. -/
def forLoop : P Node := do
  let at0 ← start
  advance
  let isAwait ←
    if ← atWord "await" then
      let c ← context
      if !c.inAsync then
        let report := Report.pointing .awaitOutsideAsync (← start)
        modify fun s =>
          if c.isTop then { s with scriptReports := report :: s.scriptReports }
          else { s with reports := report :: s.reports }
      advance
      pure true
    else pure false
  expect "("
  if ← at? ";" then return ← forRest at0 none isAwait
  if ← atWord "var" then return ← forVariables at0 .varKind isAwait
  if ← atWord "const" then return ← forVariables at0 .constKind isAwait
  if ← atLetInFor then return ← forVariables at0 .letKind isAwait
  if ← atUsing true then return ← forVariables at0 .usingKind isAwait
  if ← atAwaitUsing then return ← forVariables at0 .awaitUsingKind isAwait
  let opening ← token
  let asyncOf ← nextIs (atWord "of")
  let first ← enclosed <| within (fun c => { c with allowsIn := false }) (parse .expression)
  if (← atWord "in") || (← atWord "of") then
    let target ← targetOf first
    if !isStructured target then checkSimpleTarget target
    if ← atWord "of" then
      if opening.isWord "async" && asyncOf && !isAwait then reportAt .asyncInForOf first.start
      if opening.isWord "let" then reportAt .letInForOf first.start
    forCollection at0 target isAwait
  else forRest at0 (some first) isAwait

/-! ## Jumps -/

/-- The label of a jump, if there is one on its line. -/
def label? : P (Option String) := do
  let t ← token
  if (← mayEnd) then return none
  if !t.isName then unexpected
  checkName t
  advanceName
  return some t.text

/-- A jump to the end of a statement or to the next round of a loop. -/
def jumpStatement (make : Option String → Form) : P Node := do
  let at0 ← start
  advance
  let label ← label?
  endStatement
  node at0 (make label)

/-- A `return` statement. -/
def returnStatement : P Node := do
  let at0 ← start
  advance
  let value ←
    if ← mayEnd then
      discard (eat ";")
      pure none
    else
      let v ← fullExpression
      endStatement
      pure (some v)
  if !(← context).inFunction then reportAt .returnOutsideFunction at0
  node at0 (.returnWith value)

/-- A `throw` statement. -/
def throwStatement : P Node := do
  let at0 ← start
  advance
  if (← token).afterLineEnd then reportAt .lineEndAfterThrow (← get).lastStop
  let value ← fullExpression
  endStatement
  node at0 (.throwValue value)

/-- A `with` statement. -/
def withStatement : P Node := do
  let at0 ← start
  advance
  let object ← testInParentheses
  let body ← parse (.statement .loopBody)
  node at0 (.withObject object body)

/-- An expression as a statement, or a label in front of a statement. -/
def expressionStatement : P Node := do
  let at0 ← start
  let inner ← fullExpression
  match inner.form with
  | .name label =>
    if ← eat ":" then
      let body ← parse (.statement .labelled)
      return ← node at0 (.labelled label body)
  | _ => pure ()
  endStatement
  node at0 (.expression inner)

end LivePreview.Script.Parser
