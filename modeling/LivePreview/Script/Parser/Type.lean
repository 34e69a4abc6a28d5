import LivePreview.Script.Parser.Modifier

/-!
# Types

A type is read as what it is made of, in a row, together with its shape, which decides what may
stand around it. Lists of type arguments are tried where `<` may also be an operator, and kept when
what follows cannot go on an expression.
-/

namespace LivePreview.Script.Parser

/-- A type of some parts, up to the token before the current one. -/
def typeNode (start : Nat) (shape : TypeShape) (parts : List Node) : P Node :=
  node start (.type shape parts)

/-- A type of a shape that does not matter. -/
def plainNode (start : Nat) (parts : List Node) : P Node := typeNode start .other parts

/-- What a type looks like. -/
def shapeOf (n : Node) : TypeShape :=
  match n.form with
  | .type shape _ => shape
  | _ => .other

/-- A type. -/
def type : P Node := parse .type

/-- A context in which a conditional type may stand, or none. -/
def conditionally {α : Type} (allowed : Bool) (p : P α) : P α :=
  within (fun c => { c with allowsConditionalType := allowed }) p

/-- A type in which a conditional may stand again. -/
def innerType : P Node := conditionally true type

/-- A word as a text. -/
def wordText : P Node := do
  let t ← token
  discard propertyWord
  node t.span.start (.text t.text)

/-- The current token as a text that is a type of its own. -/
def tokenText : P Node := do
  let t ← token
  advance
  node t.span.start (.text t.text)

/-- The name of a type that is bound here. -/
def boundTypeName : P Node := do
  let t ← token
  discard bindingName
  node t.span.start (.typeName t.text)

/-- A text if a mark or a word is there. -/
def textIf (isThere : Bool) (text : String) : List Node :=
  if isThere then [.ofText text] else []

/-- Some parts behind a text, if they are there. -/
def behindText (text : String) (part : Option Node) : List Node :=
  match part with
  | some n => [.ofText text, n]
  | none => []

/-- The opening angle bracket that the current mark is or starts with. -/
def atOpeningAngle : P Bool := do
  let t ← token
  if t.isMark "<<" || t.isMark "<<=" || t.isMark "<=" then
    if t.isMark "<<" then rescan Lexer.rescanOpeningAngle; return true
  return t.isMark "<"

/-- The types of type arguments, with the opening bracket. -/
def typeArgumentList : P (List Node) := do
  let opening ← start
  advance
  if ← at? ">" then reportAt .emptyTypeArguments opening
  return (← separated ">" innerType).1

/-- One type argument or more, with their brackets. -/
def typeArguments : P Node := do
  let opening ← start
  let items ← typeArgumentList
  expect ">"
  node opening (.typeList items)

/-- Type arguments, if they are there. -/
def typeArguments? : P (Option Node) := do
  if (← token).afterLineEnd then return none
  if ← atOpeningAngle then some <$> typeArguments else return none

/-- A word at which an operator that takes two operands stands. -/
def isOperatorWord (t : Token) : Bool :=
  t.isWord "in" || t.isWord "instanceof" || t.isWord "as" || t.isWord "satisfies"

/-- Marks of operators that take two operands. -/
def binaryMarks : List String :=
  ["??", "||", "&&", "|", "^", "&", "==", "!=", "===", "!==", "<", ">", "<=", ">=", "<<", ">>",
    ">>>", "+", "-", "*", "/", "%", "**"]

/-- A token that an expression may start with. -/
def startsExpression (t : Token) : Bool :=
  match t.kind with
  | .number | .bigint | .string | .wholeTemplate | .templateHead | .privateName => true
  | .mark => ["(", "[", "\x7b", "/", "/=", "+", "-", "~", "!", "++", "--", "<", "@"].contains t.text
  | .word => !t.isReserved ||
    ["this", "super", "null", "true", "false", "function", "class", "new", "delete", "typeof",
      "void", "import"].contains t.text
  | _ => false

/-- The current token cannot go on a comparison, so that what stands before it were type
arguments. -/
def endsTypeArguments : P Bool := do
  let t ← token
  if t.isMark "(" || t.kind == .wholeTemplate || t.kind == .templateHead then return true
  if t.isMark "<" || t.isMark ">" || t.isMark "+" || t.isMark "-" then return false
  return t.afterLineEnd || (t.kind == .mark && binaryMarks.contains t.text) || isOperatorWord t ||
    !startsExpression t

/-- Type arguments inside an expression; they are kept if what follows them cannot go on a
comparison. -/
def typeArgumentsInExpression? : P (Option Node) := attemptSome do
  if !(← atOpeningAngle) then return none
  let opening ← start
  let items ← typeArgumentList
  if ['>', '='].isPrefixOf (← get).place.rest then return none
  expect ">"
  if ← endsTypeArguments then some <$> node opening (.typeList items) else return none

/-- One type parameter: its modifiers, its name, its bound and its default. -/
def typeParameter : P Node := do
  let at0 ← start
  let found ← modifiers true false
  checkModifiers found ["in", "out", "const"] .typeParameter
  let name ← boundTypeName
  let bound ← if ← eatWord "extends" then some <$> innerType else pure none
  let value ← if ← eat "=" then some <$> innerType else pure none
  let words := ["const", "in", "out"].flatMap fun w => textIf (hasModifier found w) (w ++ " ")
  plainNode at0 (words ++ [name] ++ behindText " extends " bound ++ behindText " = " value)

/-- Type parameters, if they are there. -/
def typeParameters? : P (Option Node) := do
  if !(← atOpeningAngle) then return none
  let opening ← start
  advance
  if ← at? ">" then reportAt .emptyTypeParameters opening
  let (items, _) ← separated ">" typeParameter
  expect ">"
  some <$> node opening (.typeList items)

/-- The type a function returns, or what it asserts of an argument. -/
def returnedType : P Node := do
  let at0 ← start
  let t ← token
  if t.isWord "asserts" &&
      (← nextIs do let u ← token; return u.kind == .word && !u.afterLineEnd) then
    advance
    let name ← wordText
    let claim ← if ← eatWord "is" then some <$> type else pure none
    plainNode at0 ([.ofText "asserts ", name] ++ behindText " is " claim)
  else if t.kind == .word && (← nextIsWord "is") then
    let name ← wordText
    advance
    let claim ← type
    plainNode at0 [name, .ofText " is ", claim]
  else type

/-- A type behind a colon, if there is one. -/
def annotation? : P (Option Node) := do
  if ← eat ":" then some <$> innerType else return none

/-- A type behind a colon is put to a value. -/
def noteAnnotation : P Unit := do noteTypes (← annotation?)

/-- The type behind the colon of a function, if there is one; it starts with the colon. -/
def returnAnnotation? : P (Option Node) := do
  let place ← start
  if ← eat ":" then
    let returned ← conditionally true returnedType
    some <$> plainNode place [returned]
  else return none

/-! ## Members -/

/-- A member's name; in brackets it may be any expression. -/
def typeMemberName : P Node := do
  let t ← token
  let at0 := t.span.start
  match t.kind with
  | .mark =>
    if t.text != "[" then unexpected
    advance
    let key ← enclosed (parse (.assignment true))
    expect "]"
    plainNode at0 [.ofText "[", key, .ofText "]"]
  | .word => wordText
  | .string => stringLiteral
  | .number => advance; node at0 (.number t.text.toList)
  | .bigint => advance; node at0 (.bigint t.text.toList)
  | _ => unexpected

/-- The bracket opens an index: what stands in it is no computed name. -/
def startsIndexSignature : P Bool := do
  if !(← at? "[") then return false
  ahead do
    advance
    let t ← token
    if t.isMark "..." || t.isMark "]" then return true
    if t.kind == .word && modifierWords.contains t.text then
      advance
      if (← token).isName then return true
    else if !t.isName then return false
    else advance
    if (← at? ":") || (← at? ",") then return true
    if !(← eat "?") then return false
    return (← at? ":") || (← at? ",") || (← at? "]")

/-- A member of a type ends at a semicolon, a comma or a line end. -/
def endMember : P Unit := do
  if ← eat "," then return
  endStatement

/-- A type behind a colon that must be there. -/
def annotation : P Node := do
  match ← annotation? with
  | some type => return type
  | none => unexpected

/-- The index of a signature: a name and its type in brackets, and the type of what it finds. -/
def indexSignature (found : List Token) : P Node := do
  let place ← start
  checkModifiers found ["readonly", "static"] .indexSignature
  advance
  let (names, comma?) ← separated "]" do
    let at0 ← start
    let name ← wordText
    let question ← start
    if ← eat "?" then reportAt .indexOptional question
    let type ← annotation
    plainNode at0 [name, .ofText ": ", type]
  expect "]"
  if names.length != 1 then reportAt .indexCount place
  if let some comma := comma? then reportAt .indexTrailingComma comma
  let value ← annotation
  endMember
  plainNode place (textIf (hasModifier found "readonly") "readonly " ++ [.ofText "["] ++
    Node.separated ", " names ++ [.ofText "]: ", value])

/-- The parameters of a function; one called `this` comes first, as a type. -/
def parameterNodes : P (List Node) := do
  match (← parse .parameters).form with
  | .parameterList items => return items
  | _ => return []

/-- The place of a first parameter that is called `this`. -/
def thisParameter? (parameters : List Node) : Option Nat :=
  match parameters with
  | .mk span (.type ..) :: _ => some span.start
  | _ => none

/-- The parameters that a function has when it runs. -/
def withoutThis (parameters : List Node) : List Node :=
  if (thisParameter? parameters).isSome then parameters.drop 1 else parameters

/-- A parameter that has a value when none is given. -/
def hasDefault : Node → Bool
  | .mk _ (.withDefault ..) | .mk _ (.parameter _ _ (.mk _ (.withDefault ..))) => true
  | _ => false

/-- What an accessor's parameters may not be: a getter has none, and a setter has a plain one. -/
def checkAccessor (isSetter : Bool) (place : Nat) (parameters : List Node) : P Unit := do
  if !isSetter then
    if !parameters.isEmpty then reportAt .getterParameters place
  else if parameters.length != 1 then reportAt .setterParameters place
  else
    for n in parameters do
      if isRest n then reportAt .setterRest n.start
      if hasDefault n then reportAt .setterInitializer n.start

/-- What a function is called with and what it returns. -/
structure Signature where
  typeParameters : Option Node
  /-- The place of the parameters. -/
  place : Nat
  parameters : List Node
  /-- The type that is returned, from its colon on. -/
  returns : Option Node

/-- The parts of a signature as those of a type. -/
def Signature.parts (s : Signature) : List Node :=
  s.typeParameters.toList ++ [.mk ⟨s.place, s.place⟩ (.parameterList s.parameters)] ++
    behindText ": " s.returns

/-- The parameters of a signature and what it returns. -/
def callSignature : P Signature := do
  let typeParameters ← typeParameters?
  let place ← start
  let parameters ← parameterNodes
  return ⟨typeParameters, place, parameters, ← returnAnnotation?⟩

/-- The current token opens the signature of a call. -/
def atCallSignature : P Bool := do return (← at? "(") || (← at? "<")

/-- An accessor among the members of an object type. -/
def accessorMember (at0 : Nat) : P Node := do
  let isSetter ← atWord "set"
  advance
  let name ← typeMemberName
  let s ← callSignature
  endMember
  if let some this := thisParameter? s.parameters then reportAt .accessorThisParameter this
  if isSetter then
    if let some returned := s.returns then reportAt .setterReturnType returned.start
  checkAccessor isSetter s.place (withoutThis s.parameters)
  plainNode at0 ([.ofText (if isSetter then "set " else "get "), name] ++ s.parts)

/-- One member of an object type. -/
def typeMember : P Node := do
  let at0 ← start
  if ← atCallSignature then
    let s ← callSignature
    endMember
    plainNode at0 s.parts
  else if (← atWord "new") && (← nextIs atCallSignature) then
    advance
    let s ← callSignature
    endMember
    plainNode at0 (.ofText "new " :: s.parts)
  else
    let found ← modifiers false false
    if ← atAccessor then
      checkModifiers found [] .typeMember
      accessorMember at0
    else if ← startsIndexSignature then indexSignature found
    else
      let name ← typeMemberName
      let optional ← eat "?"
      let called := name :: textIf optional "?"
      if ← atCallSignature then
        checkModifiers found [] .typeMember
        let s ← callSignature
        endMember
        plainNode at0 (called ++ s.parts)
      else
        checkModifiers found ["readonly"] .typeMember
        let type ← annotation?
        endMember
        plainNode at0 (textIf (hasModifier found "readonly") "readonly " ++ called ++
          behindText ": " type)

/-- The members of an object type or an interface, with their braces. -/
def typeMembers (isBody : Bool) : P Node := do
  let at0 ← start
  expect "\x7b"
  let members ← enclosed do
    conditionally true <| many do
      if (← at? "\x7d") || (← atEnd) then return none
      some <$> typeMember
  expect "\x7d"
  node at0 (.typeMembers isBody members)

/-- The braces hold a mapped type: a key in brackets runs over a type. -/
def startsMappedType : P Bool := ahead do
  advance
  if (← at? "+") || (← at? "-") then
    advance
    return (← atWord "readonly")
  if ← atWord "readonly" then advance
  if !(← eat "[") then return false
  if (← token).kind != .word then return false
  advance
  atWord "in"

/-- A modifier of a mapped type, which must stand behind a sign: its text, or nothing. -/
def mappedModifier (eat? : P Bool) (expect : P Unit) (text : String) : P (List Node) := do
  for sign in ["+", "-"] do
    if ← eat sign then
      expect
      return [.ofText (sign ++ text)]
  return textIf (← eat?) text

/-- A mapped type. -/
def mappedType : P Node := do
  let at0 ← start
  advance
  let parts ← enclosed do
    let readonly ← mappedModifier (eatWord "readonly") (expectWord "readonly") "readonly "
    expect "["
    let key ← token
    discard propertyWord
    expectWord "in"
    let range ← innerType
    let renamed ← if ← eatWord "as" then some <$> innerType else pure none
    expect "]"
    let optional ← mappedModifier (eat "?") (expect "?") "?"
    let value ← annotation?
    endStatement
    return readonly ++ [.ofText "[", .mk key.span (.typeName key.text), .ofText " in ", range] ++
      behindText " as " renamed ++ [.ofText "]"] ++ optional ++ [.ofText " "] ++
      behindText ": " value
  expect "\x7d"
  plainNode at0 ([.ofText "\x7b "] ++ parts ++ [.ofText " \x7d"])

/-! ## Tuples -/

/-- What an element of a tuple is: dots in front of it or a question mark behind it. -/
structure TupleElement where
  node : Node
  /-- Any number of items stands here. -/
  isRest : Bool
  /-- All items of another tuple stand here. -/
  isSpread : Bool
  isOptional : Bool

/-- One element of a tuple, which may have a name. -/
def tupleElement : P TupleElement := do
  let place ← start
  let named ← ahead do
    discard (eat "...")
    if (← token).kind != .word then return false
    advance
    discard (eat "?")
    at? ":"
  let dots ← eat "..."
  if named then
    let name ← wordText
    let optional ← eat "?"
    expect ":"
    let type ← conditionally true type
    let shape := shapeOf type
    if dots && optional then reportAt .tupleOptionalRest place
    if shape == .optional then reportAt .tupleOptionalType place
    let n ← plainNode place (textIf dots "..." ++ [name] ++ textIf optional "?" ++
      [.ofText ": ", type])
    return ⟨n, dots && shape == .array, dots, optional⟩
  else
    let type ← conditionally true type
    let shape := shapeOf type
    let n ← plainNode place (textIf dots "..." ++ [type])
    if dots then return ⟨n, shape == .array, true, false⟩
    return ⟨n, false, false, shape == .optional⟩

/-- What is wrong with the order of a tuple's elements: one rest at most, no optional element behind
it, and no required element behind an optional one. -/
def tupleReport (sawRest sawOptional : Bool) : List TupleElement → Option (Diagnostic × Nat)
  | [] => none
  | e :: es =>
    let place := e.node.start
    if e.isSpread then
      if !e.isRest then tupleReport sawRest sawOptional es
      else if sawRest then some (.tupleSecondRest, place)
      else tupleReport true sawOptional es
    else if e.isOptional then
      if sawRest then some (.tupleOptionalBehindRest, place) else tupleReport sawRest true es
    else if sawOptional then some (.tupleRequiredBehindOptional, place)
    else tupleReport sawRest sawOptional es

/-- A tuple. -/
def tupleType : P Node := do
  let at0 ← start
  advance
  let (elements, _) ← separated "]" tupleElement
  expect "]"
  if let some (diagnostic, place) := tupleReport false false elements then
    reportAt diagnostic place
  typeNode at0 .tuple
    ([.ofText "["] ++ Node.separated ", " (elements.map TupleElement.node) ++ [.ofText "]"])

/-! ## Types themselves -/

/-- The parts of a template type, from its head on. -/
def templateType : P Node := do
  let head ← token
  advance
  let (parts, _) ← improve ([Node.ofText ("`" ++ head.text)], true) fun (parts, goesOn) => do
    if !goesOn then return none
    let value ← substituted innerType
    if !(← at? "\x7d") then failExpecting "\x7d"
    rescan Lexer.rescanTemplate
    let t ← token
    if t.kind != .templateMiddle && t.kind != .templateTail then unexpected
    advance
    let more := [Node.ofText "$\x7b", value, .ofText ("\x7d" ++ t.text)]
    return some (parts ++ more, t.kind == .templateMiddle)
  plainNode head.span.start (parts ++ [.ofText "`"])

/-- The names behind the points of a qualified name, with their points. -/
def qualifiers : P Node := do
  let names ← many do
    if !(← eat ".") then return none
    let t ← token
    discard propertyWord
    return some ("." ++ t.text)
  return .ofText (String.join names)

/-- A property of the options of an imported type. -/
def optionNode (at0 : Nat) (key value : Node) : P Node :=
  node at0 (.property key value false false)

/-- The options of an imported type: attributes by name, in braces behind `with`. -/
def importTypeOptions : P Node := do
  let at0 ← start
  expect "\x7b"
  let option ← enclosed do
    let word0 ← start
    let t ← token
    if !t.isWord "with" && !t.isWord "assert" then fail .importTypeOptions
    let word ← propertyWord
    expect ":"
    let attributes0 ← start
    expect "\x7b"
    let (attributes, _) ← separated "\x7d" do
      let t ← token
      if t.isMark "..." then fail .importTypeSpread
      if t.isMark "[" then fail .importTypeKey
      if t.kind != .word && t.kind != .string then unexpected
      let key ← typeMemberKey t
      expect ":"
      let value ← parse (.assignment true)
      optionNode t.span.start key value
    expect "\x7d"
    let attributes ← node attributes0 (.object attributes)
    discard (eat ",")
    optionNode word0 word attributes
  expect "\x7d"
  node at0 (.object [option])
where
  /-- The name of an attribute. -/
  typeMemberKey (t : Token) : P Node := if t.kind == .string then stringLiteral else propertyWord

/-- An imported type, from `import` on. -/
def importedType : P (List Node) := do
  advance
  expect "("
  let parts ← enclosed do
    let source ← innerType
    let options ←
      if (← eat ",") && !(← at? ")") then
        let options ← importTypeOptions
        discard (eat ",")
        pure (some options)
      else pure none
    return source :: behindText ", " options
  expect ")"
  let names ← qualifiers
  let arguments ← typeArguments?
  return [.ofText "import("] ++ parts ++ [.ofText ")", names] ++ arguments.toList

/-- A name of a type with its type arguments. -/
def namedType : P (List Node) := do
  let t ← token
  discard propertyWord
  let names ← qualifiers
  let arguments ← typeArguments?
  return [.mk t.span (.typeName t.text), names] ++ arguments.toList

/-- The words that are types by themselves. -/
def typeWords : List String :=
  ["any", "unknown", "string", "number", "bigint", "symbol", "boolean", "undefined", "never",
    "object"]

/-- A type that starts with a word. -/
def wordType : P Node := do
  let t ← token
  let at0 := t.span.start
  if t.isWord "typeof" then
    advance
    let parts ← if ← atWord "import" then importedType else namedType
    plainNode at0 (.ofText "typeof " :: parts)
  else if t.isWord "import" then
    let parts ← importedType
    plainNode at0 parts
  else if t.isWord "asserts" &&
      (← nextIs do let u ← token; return (u.isName || u.isWord "this") && !u.afterLineEnd) then
    returnedType
  else if t.isWord "this" then
    let this ← tokenText
    if (← token).isWord "is" && !(← token).afterLineEnd then
      advance
      let claim ← type
      plainNode at0 [this, .ofText " is ", claim]
    else return this
  else if ["void", "null", "true", "false"].contains t.text then tokenText
  else if typeWords.contains t.text && !(← nextIs (at? ".")) then tokenText
  else
    let parts ← namedType
    plainNode at0 parts

/-- The rule of `Goal.plainType`: a type without operators around it. -/
def plainTypeRule : P Node := do
  let t ← token
  let at0 := t.span.start
  match t.kind with
  | .string => stringLiteral
  | .number => advance; node at0 (.number t.text.toList)
  | .bigint => advance; node at0 (.bigint t.text.toList)
  | .wholeTemplate => advance; plainNode at0 [.ofText ("`" ++ t.text ++ "`")]
  | .templateHead => templateType
  | .word => wordType
  | .mark =>
    match t.text with
    | "-" =>
      advance
      let u ← token
      if u.kind != .number && u.kind != .bigint then unexpected
      let size ← parse .plainType
      plainNode at0 [.ofText "-", size]
    | "?" =>
      advance
      let u ← token
      if u.kind == .mark && [",", "\x7d", ")", ">", "=", "|"].contains u.text then
        plainNode at0 [.ofText "?"]
      else
        let inner ← type
        plainNode at0 [.ofText "?", inner]
    | "!" =>
      advance
      let inner ← parse .plainType
      plainNode at0 [.ofText "!", inner]
    | "\x7b" => if ← startsMappedType then mappedType else typeMembers false
    | "[" => tupleType
    | "(" =>
      advance
      let inner ← enclosed innerType
      expect ")"
      plainNode at0 [.ofText "(", inner, .ofText ")"]
    | _ => unexpected
  | _ => unexpected

/-- What a parenthesis opens may be a type. -/
def opensType (t : Token) : Bool :=
  t.kind == .word || t.kind == .string || t.kind == .number || t.kind == .bigint ||
    t.kind == .wholeTemplate || t.kind == .templateHead ||
    (t.kind == .mark && [")", "...", "\x7b", "[", "(", "<", "|", "&", "*", "?", "!", "-",
      "@"].contains t.text)

/-- A type starts here. -/
def startsType : P Bool := do
  let t ← token
  match t.kind with
  | .string | .number | .bigint | .wholeTemplate | .templateHead => return true
  | .word =>
    return !t.isReserved || ["void", "null", "this", "typeof", "new", "true", "false", "import",
      "function"].contains t.text
  | .mark =>
    if ["\x7b", "[", "<", "|", "&", "*", "?", "!", "..."].contains t.text then return true
    if t.text == "-" then
      return ← nextIs do return (← token).kind == .number || (← token).kind == .bigint
    if t.text == "(" then return ← nextIs do return opensType (← token)
    return false
  | _ => return false

/-- A type with its brackets and marks behind it. A question mark is one of a conditional if a type
follows it. -/
def postfixType : P Node := do
  let at0 ← start
  let first ← parse .plainType
  improve first fun type => do
    if (← token).afterLineEnd then return none
    if ← eat "!" then return some (← plainNode at0 [type, .ofText "!"])
    if ← at? "?" then
      if ← nextIs startsType then return none
      advance
      return some (← typeNode at0 .optional [type, .ofText "?"])
    if ← at? "[" then
      advance
      if ← eat "]" then return some (← typeNode at0 .array [type, .ofText "[]"])
      if !(← startsType) then failExpecting "]"
      let index ← enclosed innerType
      expect "]"
      return some (← plainNode at0 [type, .ofText "[", index, .ofText "]"])
    return none

/-- The type that `infer` names, with the bound that it may have. -/
def inferredType : P Node := do
  let at0 ← start
  advance
  let name ← boundTypeName
  let bound ← attemptSome do
    if !(← eatWord "extends") then return none
    let bound ← conditionally false type
    if (← context).allowsConditionalType && (← at? "?") then return none
    return some bound
  plainNode at0 ([.ofText "infer ", name] ++ behindText " extends " bound)

/-- A type with the operators before it. -/
def operatorType : P Node := do
  let operators ← many do
    let t ← token
    if !(t.isWord "keyof" || t.isWord "unique" || t.isWord "readonly") then return none
    advance
    return some t
  let inner ← if ← atWord "infer" then inferredType else postfixType
  match operators.reverse with
  | [] => return inner
  | last :: before =>
    let shape := shapeOf inner
    if last.isWord "readonly" && shape != .array && shape != .tuple then
      reportAt .readonlyType last.span.start
    for t in before do
      if t.isWord "readonly" then reportAt .readonlyType t.span.start
    let words := operators.map fun t => Node.ofText (t.text ++ " ")
    plainNode ((operators.head?.getD last).span.start) (words ++ [inner])

/-- The mark or word opens a function type. -/
def startsFunctionType : P Bool := do
  let t ← token
  if t.isMark "<" then return true
  if t.isWord "new" then return true
  if t.isWord "abstract" then return ← nextIs (atWord "new")
  if !t.isMark "(" then return false
  ahead do
    advance
    if (← at? ")") || (← at? "...") then return true
    discard (modifiers false false)
    let t ← token
    if t.isName || t.isWord "this" then advance
    else if t.isMark "[" || t.isMark "\x7b" then discard (parse .pattern)
    else return false
    let t ← token
    if t.isMark ":" || t.isMark "," || t.isMark "?" || t.isMark "=" then return true
    if t.isMark ")" then
      advance
      return ← at? "=>"
    return false

/-- A function type. -/
def functionType : P Node := do
  let at0 ← start
  let isAbstract ← eatWord "abstract"
  let constructs ← eatWord "new"
  let typeParameters ← typeParameters?
  let parameters ← parse .parameters
  if !(← eat "=>") then unexpected
  let returned ← returnedType
  plainNode at0 (textIf isAbstract "abstract " ++ textIf constructs "new " ++
    typeParameters.toList ++ [parameters, .ofText " => ", returned])

/-- Types with a mark between them, which may also stand in front of the first one. -/
def joinedTypes (mark : String) (member : P Node) : P Node := do
  let at0 ← start
  let leads ← eat mark
  let first ← member
  let more ← many do
    if ← eat mark then some <$> member else return none
  if leads || !more.isEmpty then
    plainNode at0 (Node.separated (" " ++ mark ++ " ") (first :: more))
  else return first

/-- The rule of `Goal.type`. -/
def typeRule : P Node := do
  let at0 ← start
  if ← startsFunctionType then functionType
  else
    let type ← joinedTypes "|" (joinedTypes "&" operatorType)
    if (← context).allowsConditionalType && !(← token).afterLineEnd && (← atWord "extends") then
      advance
      let bound ← enclosed (conditionally false Parser.type)
      expect "?"
      let whenTrue ← enclosed innerType
      expect ":"
      let whenFalse ← innerType
      plainNode at0 [type, .ofText " extends ", bound, .ofText " ? ", whenTrue, .ofText " : ",
        whenFalse]
    else return type

end LivePreview.Script.Parser
