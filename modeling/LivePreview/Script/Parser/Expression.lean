import LivePreview.Script.Parser.Class
import LivePreview.Script.Parser.Target

/-!
# Expressions

Operators are read by how tightly they bind. Parentheses are looked into to see whether they hold
parameters; where that stays open, parameters are tried first.
-/

namespace LivePreview.Script.Parser

/-! ## Literals -/

/-- A template from its first part on, and whether one of its escapes is none. -/
def templateParts : P (Node × Bool) := do
  let t ← token
  let at0 := t.span.start
  advance
  let (parts, values, bad, _) ← improve
    ([t.text], ([] : List Node), t.escaped, t.kind == .templateHead)
    fun (parts, values, bad, goesOn) => do
      if !goesOn then return none
      let value ← substituted <| within (fun c => { c with allowsIn := true }) (parse .expression)
      if !(← at? "\x7d") then failExpecting "\x7d"
      rescan Lexer.rescanTemplate
      let t ← token
      if t.kind != .templateMiddle && t.kind != .templateTail then unexpected
      advance
      return some (t.text :: parts, value :: values, bad || t.escaped, t.kind == .templateMiddle)
  return (← node at0 (.template parts.reverse values.reverse), bad)

/-- A template that no function is applied to; all its escapes must be good. -/
def untaggedTemplate : P Node := do
  let (n, bad) ← templateParts
  if bad then reportAt .invalidTemplateEscape n.start
  return n

/-- An item of an array or an argument: an expression, or dots and an expression. -/
def spreadOrAssignment : P Node := do
  let at0 ← start
  if ← eat "..." then
    let inner ← innerAssignment
    node at0 (.spread inner)
  else innerAssignment

/-- Remembers the comma at the end of an array or an object, which a pattern may not have behind its
dots. -/
def noteComma (at0 : Nat) (comma? : Option Nat) : P Unit := do
  if let some comma := comma? then
    modify fun s => { s with lastCommas := (at0, comma) :: s.lastCommas }

/-- An array. -/
def arrayLiteral : P Node := do
  let at0 ← start
  advance
  let (elements, comma?) ← separated "]" do
    if ← at? "," then holeHere else spreadOrAssignment
  noteComma at0 comma?
  expect "]"
  node at0 (.array elements)

/-- One member of an object. -/
def objectMember : P Node := do
  let at0 ← start
  if ← at? "..." then return ← spreadOrAssignment
  let found ← modifiers false false
  if ← atAccessor then
    checkModifiers found [] .declaration
    let t ← token
    advance
    let (key, computed) ← propertyName
    let function ← accessorRest (t.isWord "set")
    let kind := if t.isWord "get" then MemberKind.getter else .setter
    return ← node at0 (.method [] kind false computed key function)
  let isGenerator ← eat "*"
  let t ← token
  let (key, computed) ← propertyName
  let u ← token
  let isMethod := isGenerator || u.isMark "(" || u.isMark "<"
  checkModifiers found (if isMethod then ["async"] else []) .declaration
  if isMethod then
    let isAsync := hasModifier found "async"
    let s ← signature isAsync isGenerator false
    let function ← methodRest isAsync isGenerator s
    node at0 (.method [] .method false computed key function)
  else if (← isReference t) && !u.isMark ":" then
    checkName t
    if u.isMark "=" then
      advance
      let value ← innerAssignment
      modify fun s => { s with shorthands := t.span.start :: s.shorthands }
      let whole ← node at0 (.withDefault key value)
      node at0 (.property key whole false true)
    else node at0 (.property key key false true)
  else
    expect ":"
    let value ← innerAssignment
    node at0 (.property key value computed false)

/-- An object. -/
def objectLiteral : P Node := do
  let at0 ← start
  advance
  let (members, comma?) ← separated "\x7d" objectMember
  noteComma at0 comma?
  expect "\x7d"
  node at0 (.object members)

/-- The node of a function that stands in parentheses of its own. -/
def markParenthesized (n : Node) : Node :=
  match n.form with
  | .function .expression a name ps body => .mk n.span (.function .parenthesized a name ps body)
  | .arrow a _ ps body => .mk n.span (.arrow a true ps body)
  | _ => n

/-- Expressions in parentheses. -/
def parenthesized : P Node := do
  let at0 ← start
  advance
  let inner0 ← start
  let (items, comma?) ← within (fun c => { c with allowsIn := true, inDecorator := false })
    (separated ")" assignment)
  if let some offset := comma? then failAt (.expected ")" ",") offset
  match items with
  | [] =>
    expect ")"
    failAt .emptyParentheses at0
  | [item] =>
    expect ")"
    node at0 (.parenthesized (markParenthesized item))
  | _ =>
    let inner ← node inner0 (.sequence items)
    expect ")"
    node at0 (.parenthesized inner)

/-! ## Calls and members -/

/-- The arguments of a call, with their parentheses. -/
def callArguments : P (List Node) := do
  expect "("
  let (items, _) ← within (fun c => { c with inDecorator := false })
    (separated ")" spreadOrAssignment)
  expect ")"
  return items

/-- The current token opens a template. -/
def atTemplate : P Bool := do
  let t ← token
  return t.kind == .wholeTemplate || t.kind == .templateHead

/-- A template applied to what stands before it. -/
def taggedTemplate (at0 : Nat) (tag : Node) (inChain : Bool) : P Node := do
  let quasi0 ← start
  let (quasi, _) ← templateParts
  if inChain then reportAt .taggedTemplateInOptionalChain quasi0
  node at0 (.tagged tag quasi)

/-- A generic value whose type arguments are those of a call. -/
def withoutTypeArguments (n : Node) : P Node := do
  match n.form with
  | .instantiated inner arguments =>
    noteType arguments
    return inner
  | _ => return n

/-- The member that a point names. -/
def namedMember (at0 : Nat) (object : Node) (optional : Bool) : P Node := do
  if let .instantiated inner _ := object.form then reportAt .instantiatedMember inner.stop
  let t ← token
  if t.kind == .privateName then
    advance
    node at0 (.privateMember object t.text optional)
  else
    discard propertyWord
    node at0 (.member object t.text optional)

/-- The member that brackets name. -/
def indexedMember (at0 : Nat) (object : Node) (optional : Bool) : P Node := do
  advance
  let key ← enclosed <| within (fun c => { c with allowsIn := true }) (parse .expression)
  expect "]"
  node at0 (.index object key optional)

/-- Members behind an expression, with the knowledge whether an optional chain has begun. -/
def memberRest (at0 : Nat) (object : Node) (inChain allowsChain : Bool) : P (Node × Bool) :=
  improve (object, inChain) fun (object, inChain) => do
    let t ← token
    match t.kind with
    | .mark =>
      match t.text with
      | "." =>
        advance
        return some (← namedMember at0 object false, inChain)
      | "?." =>
        if !allowsChain then return none
        if ← nextIs (at? "[") then
          advance
          return some (← indexedMember at0 object true, true)
        if ← nextIs do let u ← token; return u.kind == .word || u.kind == .privateName then
          advance
          return some (← namedMember at0 object true, true)
        return none
      | "[" =>
        if (← context).inDecorator then return none
        return some (← indexedMember at0 object false, inChain)
      | "!" =>
        if t.afterLineEnd then return none
        advance
        return some (← node at0 (.typed object), inChain)
      | "<" | "<<" =>
        match ← typeArgumentsInExpression? with
        | some arguments => return some (← node at0 (.instantiated object arguments), inChain)
        | none => return none
      | _ => return none
    | .wholeTemplate | .templateHead =>
      return some (← taggedTemplate at0 (← withoutTypeArguments object) inChain, inChain)
    | _ => return none

/-- Members and calls behind an expression. -/
def callRest (at0 : Nat) (callee : Node) (inChain : Bool) : P (Node × Bool) := do
  let (n, inChain, _) ← improve (callee, inChain, false) fun (callee, inChain, done) => do
    if done then return none
    let (callee, inChain) ← memberRest at0 callee inChain true
    let optional ← eat "?."
    let inChain := inChain || optional
    if optional then
      noteTypes (← typeArgumentsInExpression?)
      if ← atTemplate then return some (← taggedTemplate at0 callee true, inChain, false)
    if ← at? "(" then
      let arguments ← callArguments
      let callee ← withoutTypeArguments callee
      return some (← node at0 (.call callee arguments optional false), inChain, false)
    if optional then fail .missingNameInOptionalChain
    return some (callee, inChain, true)
  return (n, inChain)

/-- What `new` makes. -/
def newExpression : P Node := do
  let at0 ← start
  advance
  if ← eat "." then
    if ← atWord "target" then
      advance
      return ← node at0 (.metaProperty "new" "target")
    discard propertyWord
    failAt .newTarget at0
  let callee ← parse .constructed
  if let .importCall .. := callee.form then reportAt .newImport callee.start
  if ← at? "?." then fail .newOptionalChain
  let arguments ← if ← at? "(" then callArguments else pure []
  node at0 (.newCall (← withoutTypeArguments callee) arguments false)

/-- The module that an import as an expression names, and the options behind it. -/
def importArguments (at0 : Nat) : P (List Node) := do
  expect "("
  if ← at? ")" then failAt .importWithoutSpecifier at0
  let arguments ← enclosed <| within (fun c => { c with allowsIn := true, inDecorator := false }) do
    let source ← assignment
    let options ←
      if (← eat ",") && !(← at? ")") then (fun n => [n]) <$> assignment else pure []
    discard (eat ",")
    if !(← at? ")") then failAt .importArguments at0
    return source :: options
  expect ")"
  return arguments

/-- An import that is an expression. -/
def importExpression : P Node := do
  let at0 ← start
  advance
  if ← eat "." then
    let t ← token
    if t.isWord "meta" then
      advance
      modify fun s => { s with isModule := true }
      return ← node at0 (.metaProperty "import" "meta")
    if t.isWord "defer" || t.isWord "source" then
      advance
      let arguments ← importArguments at0
      return ← node at0 (.importCall t.text arguments)
    discard propertyWord
    failAt .importMeta at0
  let arguments ← importArguments at0
  node at0 (.importCall "" arguments)

/-- A class that is an expression, with its decorators. -/
def classExpression : P Node := do
  let at0 ← start
  let decos ← decorators
  if !(← atWord "class") then unexpected
  classRest at0 decos false

/-- The simplest expressions. -/
def primary : P Node := do
  let t ← token
  let at0 := t.span.start
  match t.kind with
  | .number => advance; node at0 (.number t.text.toList)
  | .bigint => advance; node at0 (.bigint t.text.toList)
  | .string => advance; node at0 (.string t.value)
  | .wholeTemplate | .templateHead => untaggedTemplate
  | .mark =>
    match t.text with
    | "(" => parenthesized
    | "[" => arrayLiteral
    | "\x7b" => objectLiteral
    | "@" => classExpression
    | "/" | "/=" =>
      rescan Lexer.rescanRegularExpression
      let t ← token
      if t.kind == .unknown then unexpected
      advance
      node at0 (.regularExpression t.text)
    | _ => unexpected
  | .word =>
    match t.text with
    | "function" => functionExpression at0 false
    | "class" => classExpression
    | "new" => newExpression
    | "import" => importExpression
    | "this" | "null" | "true" | "false" => advance; node at0 (.constant t.text)
    | "super" =>
      advance
      let u ← token
      if u.isMark "." || u.isMark "(" || u.isMark "[" then node at0 (.constant "super")
      else failAt .misplacedSuper at0
    | "async" =>
      if ← nextIs do let u ← token; return u.isWord "function" && !u.afterLineEnd then
        advance
        functionExpression at0 true
      else referenceName
    | _ => referenceName
  | _ => unexpected

/-- The rule of `Goal.constructed`. -/
def constructedRule : P Node := do
  let at0 ← start
  let object ← primary
  let (n, _) ← memberRest at0 object false false
  return n

/-- The rule of `Goal.leftSide`. -/
def leftSideRule : P Node := do
  let at0 ← start
  let object ← primary
  let (n, inChain) ← callRest at0 object false
  if inChain then node at0 (.chain n) else return n

/-! ## Operators -/

/-- How tightly comparisons bind. -/
def comparisonLevel : Nat := 8

/-- How tightly an operator of two operands binds. -/
def operatorLevel (t : Token) : Option Nat :=
  match t.kind with
  | .mark =>
    match t.text with
    | "??" => some 1
    | "||" => some 2
    | "&&" => some 3
    | "|" => some 4
    | "^" => some 5
    | "&" => some 6
    | "==" | "!=" | "===" | "!==" => some 7
    | "<" | ">" | "<=" | ">=" => some comparisonLevel
    | "<<" | ">>" | ">>>" => some 9
    | "+" | "-" => some 10
    | "*" | "/" | "%" => some 11
    | "**" => some 12
    | _ => none
  | .word =>
    match t.text with
    | "in" | "instanceof" | "as" | "satisfies" => some comparisonLevel
    | _ => none
  | _ => none

/-- The current token; a closing angle bracket grows into the operator that it starts. -/
def operatorToken : P Token := do
  if ← at? ">" then rescan Lexer.rescanClosingAngle
  token

/-- `??` beside `||` or `&&`. -/
def mixesCoalescing (operator : String) (left right : Node) : Bool :=
  let isLogic (n : Node) : Bool := match n.form with
    | .binary o _ _ => o == "||" || o == "&&"
    | _ => false
  let isCoalescing (n : Node) : Bool := match n.form with
    | .binary o _ _ => o == "??"
    | _ => false
  (operator == "??" && (isLogic left || isLogic right)) ||
    ((operator == "||" || operator == "&&") && (isCoalescing left || isCoalescing right))

/-- The rule of `Goal.binary`: operators that bind tighter than `level`. -/
def binaryRule (level : Nat) : P Node := do
  let at0 ← start
  let first ←
    if (← atKind .privateName) && (← context).allowsIn then
      if level ≥ comparisonLevel then fail .privateNameOperand
      let t ← token
      advance
      let key ← node at0 (.privateName t.text)
      expectWord "in"
      let right ← parse (.binary comparisonLevel)
      node at0 (.binary "in" key right)
    else parse .unary
  improve first fun left => do
    let t ← operatorToken
    match operatorLevel t with
    | none => return none
    | some l =>
      if l < level || (l == level && l != 12) then return none
      if t.isWord "in" && !(← context).allowsIn then return none
      if t.isWord "as" || t.isWord "satisfies" then
        if t.afterLineEnd then return none
        advance
        noteType (← type)
        return some (← node at0 (.typed left))
      advance
      let right ← parse (.binary l)
      if mixesCoalescing t.text left right then reportAt .mixedCoalescing at0
      return some (← node at0 (.binary t.text left right))

/-- A word or a literal follows on the same line. -/
def nextStartsOperand : P Bool := nextIs do
  let u ← token
  return (u.kind == .word || u.kind == .number || u.kind == .bigint || u.kind == .string) &&
    !u.afterLineEnd

/-- `await` is an operator here. -/
def atAwait : P Bool := do
  if !(← atWord "await") then return false
  if (← context).inAsync then return true
  nextStartsOperand

/-- An operand with `++` or `--` on one side. -/
def updateExpression : P Node := do
  let t ← token
  let at0 := t.span.start
  if t.isMark "++" || t.isMark "--" then
    advance
    let operand ← parse .unary
    checkSimpleTarget operand
    node at0 (.update t.text true operand)
  else
    let operand ← parse .leftSide
    let t ← token
    if (t.isMark "++" || t.isMark "--") && !t.afterLineEnd then
      checkSimpleTarget operand
      advance
      node at0 (.update t.text false operand)
    else return operand

/-- The rule of `Goal.unary`. -/
def unaryRule : P Node := do
  let t ← token
  let at0 := t.span.start
  let isOperator := t.isMark "+" || t.isMark "-" || t.isMark "~" || t.isMark "!" ||
    t.isWord "delete" || t.isWord "typeof" || t.isWord "void"
  if isOperator then
    advance
    let operand ← parse .unary
    if ← at? "**" then reportAt (.unaryPower t.text) at0
    node at0 (.unary t.text operand)
  else if t.isMark "<" then
    advance
    noteType (← enclosed innerType)
    expect ">"
    let operand ← parse .unary
    if ← at? "**" then reportAt (.unaryPower "type assertion") at0
    node at0 (.typed operand)
  else if ← atAwait then
    let c ← context
    if !c.inAsync then
      if c.isTop then modify fun s => { s with isModule := true }
      else reportAt .awaitOutsideAsync at0
    advance
    let operand ← within (fun c => { c with inAsync := true }) (parse .unary)
    if ← at? "**" then reportAt (.unaryPower "await") at0
    node at0 (.awaitFor operand)
  else updateExpression

/-! ## Functions with arrows -/

/-- The context of an arrow function's expression. -/
def Context.ofArrow (isAsync : Bool) (c : Context) : Context :=
  { c with inGenerator := false, inAsync := isAsync, inFunction := true, isTop := false }

/-- The body of an arrow function, behind the arrow. -/
def arrowBody (isAsync allowsReturnType : Bool) : P Node := do
  if ← at? "\x7b" then functionBody isAsync false
  else within (Context.ofArrow isAsync) (parse (.assignment allowsReturnType))

/-- The parameters of an arrow function up to its arrow, and whether a type stands there. -/
def arrowHead : P (Bool × List Node × Bool) := do
  let isAsync ← eatWord "async"
  let (parameters, returns) ←
    within (fun c => { c with inAsync := isAsync || c.inAsync, allowsIn := true }) do
      noteTypes (← typeParameters?)
      let parameters ← parameterList false
      if let some this := thisParameter? parameters then reportAt .arrowThisParameter this
      let returns ← returnAnnotation?
      noteTypes returns
      return (withoutThis parameters, returns.isSome)
  let t ← token
  if t.isMark "=>" && t.afterLineEnd then reportAt .lineEndBeforeArrow t.span.start
  expect "=>"
  return (isAsync, parameters, returns)

/-- An arrow function with parentheses, none of whose parts is in doubt. -/
def arrowFunction (allowsReturnType : Bool) : P Node := do
  let at0 ← start
  let (isAsync, parameters, _) ← arrowHead
  let body ← arrowBody isAsync allowsReturnType
  node at0 (.arrow (.of isAsync false) false parameters body)

/-- An arrow function, if what stands here can be one. Between `?` and `:` a type behind the
parameters is one only if the colon of the conditional follows. -/
def possibleArrowFunction (allowsReturnType : Bool) : P (Option Node) := do
  let at0 ← start
  if allowsReturnType then
    match ← attempt arrowHead with
    | none => return none
    | some (isAsync, parameters, _) =>
      let body ← arrowBody isAsync allowsReturnType
      return some (← node at0 (.arrow (.of isAsync false) false parameters body))
  else
    attemptSome do
      let (isAsync, parameters, returns) ← arrowHead
      let body ← arrowBody isAsync allowsReturnType
      if returns && !(← at? ":") then return none
      return some (← node at0 (.arrow (.of isAsync false) false parameters body))

/-- Whether parentheses hold the parameters of an arrow function; nothing if only trying tells. -/
def holdsParameters : P (Option Bool) := fun rules s =>
  let look : P (Option Bool) := do
    if ← atWord "async" then
      advance
      let t ← token
      if t.afterLineEnd || !(t.isMark "(" || t.isMark "<") then return some false
    let first ← token
    advance
    let second ← token
    if first.isMark "(" then
      if second.isMark ")" then
        advance
        let t ← token
        return some (t.isMark "=>" || t.isMark ":" || t.isMark "\x7b")
      if second.isMark "[" || second.isMark "\x7b" then return none
      if second.isMark "..." then return some true
      if second.kind == .word && second.text != "async" && modifierWords.contains second.text &&
          (← nextIs do return (← token).isName) then
        advance
        return some (!(← atWord "as"))
      if !second.isName && !second.isWord "this" then return some false
      advance
      let t ← token
      if t.isMark ":" then return some true
      if t.isMark "?" then
        advance
        let u ← token
        return some (u.isMark ":" || u.isMark "," || u.isMark "=" || u.isMark ")")
      if t.isMark "," || t.isMark "=" || t.isMark ")" then return none
      return some false
    else
      if !second.isName && !second.isWord "const" then return some false
      return none
  match look rules s with
  | .ok (a, _) => .ok (a, s)
  | .error _ => .ok (some false, s)

/-- An arrow function with one parameter and no parentheses, behind `async`. -/
def atAsyncArrow : P Bool := do
  let t ← token
  if !t.isWord "async" || t.escaped then return false
  ahead do
    advance
    let t ← token
    if t.afterLineEnd || !t.isName then return false
    advance
    let t ← token
    return t.isMark "=>" && !t.afterLineEnd

/-! ## Assignments -/

/-- The marks that assign. -/
def assignmentMarks : List String :=
  ["=", "+=", "-=", "*=", "/=", "%=", "**=", "<<=", ">>=", ">>>=", "&=", "|=", "^=", "&&=", "||=",
    "??="]

/-- `yield` is an operator here. -/
def atYield : P Bool := do
  if !(← atWord "yield") then return false
  if (← context).inGenerator then return true
  nextStartsOperand

/-- What a generator yields. -/
def yieldExpression : P Node := do
  let at0 ← start
  if !(← context).inGenerator then reportAt .yieldOutsideGenerator at0
  advance
  if (← token).afterLineEnd then return ← node at0 (.yieldTo false none)
  let delegate ← eat "*"
  let t ← token
  let ends := t.kind == .endOfText || t.isWord "in" ||
    (t.kind == .mark && [";", "\x7d", ")", "]", ":", ","].contains t.text)
  if ends && !delegate then return ← node at0 (.yieldTo false none)
  let operand ← assignment
  node at0 (.yieldTo delegate (some operand))

/-- The rest of a conditional behind its test, if a question mark follows. -/
def conditionalRest (at0 : Nat) (test : Node) (allowsReturnType : Bool) : P Node := do
  if !(← eat "?") then return test
  let whenTrue ← enclosed <|
    within (fun c => { c with allowsIn := true }) (parse (.assignment false))
  expect ":"
  let whenFalse ← parse (.assignment allowsReturnType)
  node at0 (.conditional test whenTrue whenFalse)

/-- An expression that starts with no arrow function's parentheses. -/
def plainAssignment (allowsReturnType : Bool) : P Node := do
  let at0 ← start
  if ← atAsyncArrow then
    advance
    let parameter ← within (fun c => { c with inAsync := true }) bindingName
    expect "=>"
    let body ← arrowBody true allowsReturnType
    return ← node at0 (.arrow (.of true false) false [parameter] body)
  let left ← parse (.binary 0)
  let t ← operatorToken
  if t.isMark "=>" && isNameNode left then
    if t.afterLineEnd then reportAt .lineEndBeforeArrow t.span.start
    advance
    let body ← arrowBody false allowsReturnType
    return ← node at0 (.arrow .plain false [left] body)
  if t.kind == .mark && assignmentMarks.contains t.text then
    let target ←
      match left.form with
      | .array _ | .object _ => targetOf left
      | _ => checkSimpleTarget left; pure left
    advance
    let value ← parse (.assignment allowsReturnType)
    return ← node at0 (.assign t.text target value)
  conditionalRest at0 left allowsReturnType

/-- The call that an expression starts with, if it is one, has no effect but its value. -/
def markPure : Node → Node
  | .mk span form => .mk span <|
    match form with
    | .call callee arguments optional _ => .call callee arguments optional true
    | .newCall callee arguments _ => .newCall callee arguments true
    | .chain inner => .chain (markPure inner)
    | .parenthesized inner => .parenthesized (markPure inner)
    | .binary operator left right => .binary operator (markPure left) right
    | .conditional test whenTrue whenFalse => .conditional (markPure test) whenTrue whenFalse
    | form => form

/-- Calls of a function have no effect but their value. -/
def markEffectless (n : Node) : Node :=
  match n.form with
  | .function place traits name parameters body =>
    .mk n.span (.function place { traits with isEffectless := true } name parameters body)
  | .arrow traits parenthesized parameters body =>
    .mk n.span (.arrow { traits with isEffectless := true } parenthesized parameters body)
  | _ => n

/-- An expression up to the next comma that is no `yield`. -/
def unannotatedAssignment (allowsReturnType : Bool) : P Node := do
  let t ← token
  if t.isMark "(" || t.isMark "<" || t.isWord "async" then
    match ← holdsParameters with
    | some true => return ← arrowFunction allowsReturnType
    | none =>
      match ← possibleArrowFunction allowsReturnType with
      | some n => return n
      | none => plainAssignment allowsReturnType
    | some false => plainAssignment allowsReturnType
  else plainAssignment allowsReturnType

/-- The rule of `Goal.assignment`. -/
def assignmentRule (allowsReturnType : Bool) : P Node := do
  let isPure ← annotated .pureCall
  let isEffectless ← annotated .effectlessFunction
  if ← atYield then return ← yieldExpression
  let n ← unannotatedAssignment allowsReturnType
  let n := if isPure then markPure n else n
  return if isEffectless then markEffectless n else n

/-- The rule of `Goal.expression`. -/
def expressionRule : P Node := do
  let at0 ← start
  let first ← assignment
  if !(← at? ",") then return first
  let rest ← many do
    if ← eat "," then some <$> assignment else return none
  node at0 (.sequence (first :: rest))

end LivePreview.Script.Parser
