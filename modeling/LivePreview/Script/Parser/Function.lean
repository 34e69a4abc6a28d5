import LivePreview.Script.Parser.Type

/-!
# Patterns, parameters, function bodies

What a declaration, a parameter or a caught value is bound to; the parts that all functions share.
-/

namespace LivePreview.Script.Parser

/-! ## Patterns -/

/-- An expression up to the next comma. -/
def assignment : P Node := parse (.assignment true)

/-- An expression up to the next comma, in which `in` may stand. -/
def innerAssignment : P Node := within (fun c => { c with allowsIn := true }) assignment

/-- A pattern and the value it has when none is given. -/
def patternWithDefault : P Node := do
  let at0 ← start
  let target ← parse .pattern
  if ← eat "=" then
    let value ← innerAssignment
    node at0 (.withDefault target value)
  else return target

/-- What a pattern's dots gather. -/
def restPattern : P Node := do
  let at0 ← start
  advance
  let target ← parse .pattern
  noteAnnotation
  node at0 (.rest target)

/-- A place of an array that holds nothing. -/
def holeHere : P Node := do
  let at0 ← start
  return .mk ⟨at0, at0⟩ .hole

/-- The pattern of an array. -/
def arrayPattern : P Node := do
  let at0 ← start
  advance
  let (elements, rest) ← separatedWithRest "]" .restNotLastInPattern do
    if ← at? "," then holeHere
    else if ← at? "..." then restPattern
    else patternWithDefault
  expect "]"
  node at0 (.arrayPattern true elements rest)

/-- The name of a property, and whether it stood in brackets. -/
def propertyName : P (Node × Bool) := do
  let t ← token
  match t.kind with
  | .word => return (← propertyWord, false)
  | .string => return (← stringLiteral, false)
  | .number => advance; return (← node t.span.start (.number t.text.toList), false)
  | .bigint => advance; return (← node t.span.start (.bigint t.text.toList), false)
  | .mark =>
    if t.text == "[" then
      advance
      let key ← enclosed innerAssignment
      expect "]"
      return (key, true)
    unexpected
  | _ => unexpected

/-- A node that is a name. -/
def isNameNode (n : Node) : Bool :=
  match n.form with
  | .name _ => true
  | _ => false

/-- One property of an object's pattern. -/
def patternProperty : P Node := do
  let t ← token
  let at0 := t.span.start
  if t.isMark "..." then
    let n ← restPattern
    if let .rest target := n.form then
      if !isNameNode target then reportAt .restPattern target.start
    return n
  let (key, computed) ← propertyName
  if t.isName && !(← at? ":") then
    checkName t
    if ← eat "=" then
      let value ← innerAssignment
      let target ← node at0 (.withDefault key value)
      node at0 (.property key target false true)
    else node at0 (.property key key false true)
  else
    expect ":"
    let target ← patternWithDefault
    node at0 (.property key target computed false)

/-- The pattern of an object. -/
def objectPattern : P Node := do
  let at0 ← start
  advance
  let (members, rest) ← separatedWithRest "\x7d" .restNotLastInPattern patternProperty
  expect "\x7d"
  node at0 (.objectPattern true members rest)

/-- The rule of `Goal.pattern`. -/
def patternRule : P Node := do
  if ← at? "[" then arrayPattern
  else if ← at? "\x7b" then objectPattern
  else bindingName

/-! ## Parameters -/

/-- The decorators that stand here. -/
def decorators : P (List Node) := many do
  if !(← at? "@") then return none
  advance
  some <$> within (fun c => { c with inDecorator := true }) (parse .leftSide)

/-- A parameter that gathers all arguments left. -/
def restParameter : P Node := do
  let at0 ← start
  advance
  let target ← parse .pattern
  let t ← token
  if t.isMark "?" then
    reportAt .optionalRestParameter t.span.start
    advance
  noteAnnotation
  let t ← token
  if t.isMark "=" then
    reportAt .restInitializer t.span.start
    advance
    discard innerAssignment
  node at0 (.rest target)

/-- One parameter; those of a constructor may have modifiers, which declare a field. -/
def parameter (ofConstructor : Bool) : P Node := do
  let at0 ← start
  let decos ← decorators
  if ← at? "..." then
    let pattern ← restParameter
    if decos.isEmpty then return pattern
    return ← node at0 (.parameter decos false pattern)
  let found ← modifiers false false
  let admitted := if ofConstructor then accessibilityWords ++ ["readonly", "override"] else []
  checkModifiers found admitted .parameter
  let target0 ← start
  let target ← parse .pattern
  let optional ← eat "?"
  noteAnnotation
  let pattern ←
    if ← eat "=" then
      let value ← innerAssignment
      if optional then reportAt .optionalParameterInitializer target0
      node target0 (.withDefault target value)
    else pure target
  if !found.isEmpty && !isNameNode target then reportAt .parameterFieldPattern at0
  if decos.isEmpty && found.isEmpty then return pattern
  node at0 (.parameter decos (!found.isEmpty) pattern)

/-- A first parameter that is called `this`, which exists for types only, and the comma behind
it. -/
def thisParameter : P Node := do
  let at0 ← start
  advance
  let type ← annotation?
  let n ← plainNode at0 (.ofText "this" :: behindText ": " type)
  if !(← at? ")") then expect ","
  return n

/-- The parameters of a function, with their parentheses. -/
def parameterList (ofConstructor : Bool) : P (List Node) := do
  expect "("
  let this ← if ← atWord "this" then (fun n => [n]) <$> enclosed thisParameter else pure []
  let (items, rest) ← separatedWithRest ")" .restNotLastInParameters (parameter ofConstructor)
  expect ")"
  return this ++ items ++ rest.toList

/-- The rule of `Goal.parameters`. -/
def parametersRule : P Node := do
  let at0 ← start
  let items ← parameterList false
  node at0 (.parameterList items)

/-! ## Bodies -/

/-- Statements up to a closing brace or the end; the strings that a body starts with are
directives. -/
def statementList (isBody : Bool) : P (List Node) := enclosed do
  let (items, _) ← improve (([] : List Node), isBody) fun (acc, mayDirect) => do
    if (← at? "\x7d") || (← token).kind == .endOfText then return none
    let t ← token
    let statement ← parse (.statement .list)
    match statement.form with
    | .expression inner =>
      match inner.form with
      | .string _ =>
        if mayDirect && t.kind == .string then
          return some (.mk statement.span (.directive t.text) :: acc, true)
        return some (statement :: acc, false)
      | _ => return some (statement :: acc, false)
    | _ => return some (statement :: acc, false)
  return items.reverse

/-- The context of a function's body. -/
def Context.ofFunction (isAsync isGenerator : Bool) (c : Context) : Context :=
  { c with
    allowsIn := true, inGenerator := isGenerator, inAsync := isAsync, inFunction := true
    isTop := false, inDecorator := false, allowsConditionalType := true }

/-- A function's body, with its braces. -/
def functionBody (isAsync isGenerator : Bool) : P Node := do
  let at0 ← start
  expect "\x7b"
  let body ← within (Context.ofFunction isAsync isGenerator) (statementList true)
  expect "\x7d"
  node at0 (.functionBody body)

/-- A function from its type parameters to its parameters' end and the type behind them. Its types
are put to it. -/
def signature (isAsync isGenerator ofConstructor : Bool) : P Signature :=
  within (fun c => { c with inAsync := isAsync, inGenerator := isGenerator,
                            inDecorator := false }) do
    let typeParameters ← typeParameters?
    let place ← start
    let parameters ← parameterList ofConstructor
    let returns ← returnAnnotation?
    noteTypes typeParameters
    noteTypes returns
    return ⟨typeParameters, place, parameters, returns⟩

/-- A function's body behind its signature. Without a body it ends like a statement; what is only
declared has none. -/
def functionRest (at0 : Nat) (place : FunctionPlace) (isAsync isGenerator : Bool)
    (name : Option Node) (s : Signature) (isDeclared : Bool) : P Node := do
  let parameters := withoutThis s.parameters
  if parameters.length < s.parameters.length then noteTypes s.parameters.head?
  if ← at? "\x7b" then
    let body0 ← start
    let body ← functionBody isAsync isGenerator
    if isDeclared then reportAt .ambientImplementation body0
    node at0 (.function place (.of isAsync isGenerator) name parameters (some body))
  else
    if place == .expression then expect "\x7b"
    endStatement
    node at0 (.function place (.of isAsync isGenerator) name parameters none)

/-- The name of a declared function. -/
def declaredFunctionName? : P (Option Node) := do
  let t ← token
  if t.isName then return some (← bindingName)
  if t.isMark "(" then reportAt .missingFunctionName t.span.start
  else if t.isReserved then fail (.expected "Identifier" t.shown)
  return none

/-- A function declaration from the word `function` on. Only what has no modifiers may be a
generator. -/
def functionDeclaration (at0 : Nat) (isAsync mayGenerate isDeclared mayLackName : Bool) :
    P Node := do
  advance
  let isGenerator ← if mayGenerate then eat "*" else pure false
  let name ←
    if mayLackName && !(← token).isName then pure none else declaredFunctionName?
  let s ← signature isAsync isGenerator false
  functionRest at0 .declaration isAsync isGenerator name s isDeclared

/-- A function expression from the word `function` on. -/
def functionExpression (at0 : Nat) (isAsync : Bool) : P Node := do
  advance
  let isGenerator ← eat "*"
  let name ←
    if (← token).isName then
      within (fun c => { c with inAsync := isAsync, inGenerator := isGenerator })
        (some <$> bindingName)
    else pure none
  let s ← signature isAsync isGenerator false
  functionRest at0 .expression isAsync isGenerator name s false

end LivePreview.Script.Parser
