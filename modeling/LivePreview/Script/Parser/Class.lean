import LivePreview.Script.Parser.Function

/-!
# Classes

Members that exist for types only (abstract ones, declared ones, signatures without a body, index
signatures) become `typeMember`; of the modifiers only those that mean something when the class runs
are kept.
-/

namespace LivePreview.Script.Parser

open Text (Cursor)

/-! ## Members -/

/-- A key names a member of its own, without brackets. -/
def isKeyNamed (key : Node) (computed : Bool) (name : String) : Bool :=
  !computed && match key.form with
    | .name text => text == name
    | .string points => points == name.toList.map Char.toNat
    | _ => false

/-- What a member is to its modifiers. -/
inductive MemberSort where
  | constructs
  | acts
  | accesses
  | holds
deriving DecidableEq

/-- What is wrong with a modifier of a member. -/
def memberModifierReport (sort : MemberSort) (name : String) : Option Diagnostic :=
  match name with
  | "const" => some .constMember
  | "in" | "out" => some (.modifier name .notTypeParameter)
  | "export" => some (.modifier name .classElement)
  | name =>
    match sort, name with
    | .constructs, "declare" | .constructs, "abstract" | .constructs, "override"
    | .constructs, "readonly" | .constructs, "accessor" => some (.modifier name .constructor)
    | .acts, "declare" => some (.modifier name .classElement)
    | .acts, "readonly" => some (.modifier name .notProperty)
    | .accesses, "declare" | .accesses, "async" => some (.modifier name .declaration)
    | _, _ => none

/-- Reports the modifiers that a member cannot have. -/
def checkMemberModifiers (sort : MemberSort) (found : List Token) : P Unit := do
  for t in found do
    if let some diagnostic := memberModifierReport sort t.text then
      reportAt diagnostic t.span.start

/-- Reports decorators where none can stand. -/
def checkUndecorated (decos : List Node) : P Unit := do
  for n in decos do reportAt .misplacedDecorators (n.start - 1)

/-- A method from its type parameters on. -/
def methodRest (isAsync isGenerator : Bool) (s : Signature) : P Node := do
  functionRest s.place .member isAsync isGenerator none s false

/-- A function node has a body. -/
def hasBody (n : Node) : Bool :=
  match n.form with
  | .function _ _ _ _ body => body.isSome
  | _ => false

/-- An accessor's function, behind its key. -/
def accessorRest (isSetter : Bool) : P Node := do
  let s ← signature false false false
  let function ← methodRest false false s
  checkAccessor isSetter s.place (withoutThis s.parameters)
  return function

/-- A block that runs when its class is made. -/
def staticBlock (at0 : Nat) : P Node := do
  advance
  advance
  let body ← within (fun c => { Context.ofFunction true false c with inFunction := false })
    (statementList false)
  expect "\x7d"
  node at0 (.staticBlock body)

/-- What a message calls a key that starts at a place. -/
def keyText (key : Node) (place : Cursor) : String :=
  match key.form with
  | .name text => text
  | .string points => String.ofList (points.map Char.ofNat)
  | _ => String.ofList (Text.takeBytes (key.stop - key.start) place.rest)

/-- The name of a class member, and whether it stood in brackets. -/
def memberName (found : List Token) : P (Node × Bool) := do
  let t ← token
  if t.kind != .privateName then return ← propertyName
  if let some m := found.find? fun m => accessibilityWords.contains m.text then
    reportAt .accessibilityOfPrivateName m.span.start
  advance
  let key ← node t.span.start (.privateName t.text)
  if t.text == "constructor" then reportAt .privateConstructor key.start
  return (key, false)

/-- A member with this function, or what exists for types only. What is abstract has no body, and
what has no body has no decorators; `name` is what a message calls it. -/
def functionMember (at0 : Nat) (decos : List Node) (found : List Token) (kind : MemberKind)
    (key : Node) (computed : Bool) (name : String) (function : Node) : P Node := do
  let isAccessor := kind == .getter || kind == .setter
  if hasModifier found "abstract" && hasBody function then
    reportAt (.abstractImplementation isAccessor name) key.start
  if !hasBody function then
    for n in decos do reportAt .decoratedOverload (n.start - 1)
  let n ← node at0 (.method decos kind (hasModifier found "static") computed key function)
  if hasModifier found "abstract" || !hasBody function then node at0 (.typeMember [n]) else return n

/-- A static member cannot be called `prototype`. -/
def checkStaticName (found : List Token) (key : Node) (computed : Bool) : P Unit := do
  if hasModifier found "static" && isKeyNamed key computed "prototype" then
    reportAt .staticPrototype key.start

/-- A constructor or a method, behind its key. -/
def methodMember (at0 : Nat) (decos : List Node) (found : List Token) (isGenerator : Bool)
    (key : Node) (computed : Bool) (name : String) : P Node := do
  let isAsync := hasModifier found "async"
  let constructs := isKeyNamed key computed "constructor" && !hasModifier found "static"
  checkMemberModifiers (if constructs then .constructs else .acts) found
  if constructs then
    checkUndecorated decos
    if isAsync then reportAt .constructorAsync key.start
    if isGenerator then reportAt .constructorGenerator key.start
  let s ← signature isAsync isGenerator constructs
  let function ← methodRest isAsync isGenerator s
  if constructs then
    if let some this := thisParameter? s.parameters then
      reportAt .constructorThisParameter this
    if let some n := s.typeParameters then reportAt .constructorTypeParameters n.start
    if let some n := s.returns then reportAt .constructorReturnType n.start
  let kind := if constructs then MemberKind.construct else .method
  functionMember at0 decos found kind key computed name function

/-- The words of a property that are written in front of its key. -/
def fieldWords (found : List Token) : List String :=
  let isAccessor := hasModifier found "accessor"
  (if hasModifier found "static" then ["static"] else []) ++
    (if isAccessor && hasModifier found "override" then ["override"] else []) ++
    (if isAccessor then ["accessor"] else [])

/-- A property, behind its key. -/
def propertyMember (at0 : Nat) (decos : List Node) (found : List Token) (key : Node)
    (computed : Bool) (name : String) (question : Option Nat) : P Node := do
  checkMemberModifiers .holds found
  if let some t := found.find? (·.isWord "accessor") then
    for other in ["readonly", "declare"] do
      if hasModifier found other then reportAt (.modifiersClash "accessor" other) t.span.start
    if let some place := question then reportAt .optionalAccessor place
  let bang ← token
  if bang.isMark "!" && !bang.afterLineEnd then
    advance
    if question.isSome then reportAt .optionalDefinite bang.span.start
  noteAnnotation
  let value ←
    if ← eat "=" then
      some <$> within (fun c => { c with allowsIn := true, inAsync := false,
                                         inGenerator := false }) (parse .expression)
    else pure none
  if isKeyNamed key computed "constructor" then reportAt .constructorField key.start
  if !(← eat ";") then
    if !(← mayEnd) then failExpecting ";"
  let isAbstract := hasModifier found "abstract"
  if isAbstract && value.isSome then reportAt (.abstractInitializer name) key.start
  let n ← node at0 (.field decos (fieldWords found) computed key value)
  if isAbstract || hasModifier found "declare" then node at0 (.typeMember [n]) else return n

/-- One member of a class. -/
def classMember : P Node := do
  let at0 ← start
  let decos ← decorators
  let found ← modifiers true true
  if (← atWord "static") && (← nextIs (at? "\x7b")) then
    checkUndecorated decos
    return ← staticBlock at0
  let t ← token
  if ← atAccessor then
    advance
    let written := (← get).place
    let (key, computed) ← memberName found
    checkMemberModifiers .accesses found
    checkStaticName found key computed
    if isKeyNamed key computed "constructor" && !hasModifier found "static" then
      reportAt .constructorGetSet key.start
    let function ← accessorRest (t.isWord "set")
    return ← functionMember at0 decos found (if t.isWord "get" then .getter else .setter) key
      computed (keyText key written) function
  if ← startsIndexSignature then
    checkUndecorated decos
    let n ← indexSignature found
    return ← node at0 (.typeMember [n])
  let constructs := t.isWord "constructor" && !hasModifier found "static"
  let isGenerator ← eat "*"
  let written := (← get).place
  let (key, computed) ← memberName found
  let name := keyText key written
  if constructs then return ← methodMember at0 decos found false key computed name
  checkStaticName found key computed
  let question ← start
  let optional ← eat "?"
  let t ← token
  if isGenerator || t.isMark "(" || t.isMark "<" then
    methodMember at0 decos found isGenerator key computed name
  else
    propertyMember at0 decos found key computed name (if optional then some question else none)

/-- The members of a class, with their braces. -/
def classBody : P (List Node) := do
  expect "\x7b"
  let members ← enclosed <| many do
    discard <| many do
      if ← eat ";" then return some ()
      return none
    if (← at? "\x7d") || (← token).kind == .endOfText then return none
    some <$> classMember
  expect "\x7d"
  return members

/-! ## Heritage -/

/-- What a class or an interface is built on. -/
structure Heritage where
  /-- What is extended, each with its type arguments. -/
  extended : List (Node × Option Node)
  extends? : Option Nat
  implements? : Option Nat

/-- One item of an `extends` clause, with its type arguments. -/
def extendedItem : P (Node × Option Node) := do
  let n ← within (fun c => { c with allowsIn := true }) (parse .leftSide)
  return (n, ← typeArguments?)

/-- One item of an `implements` clause, which is a type that is put to the class. -/
def implementedType : P Unit := do
  let at0 ← start
  let parts ← namedType
  noteType (← plainNode at0 parts)

/-- The clauses in front of the members of a class or an interface. -/
def heritage : P Heritage := improve (⟨[], none, none⟩ : Heritage) fun h => do
  let place ← start
  if ← atWord "extends" then
    if h.extends?.isSome then reportAt .extendsRepeated place
    else if h.implements?.isSome then reportAt .extendsBehindImplements place
    advance
    let first ← extendedItem
    let more ← many do
      if ← eat "," then some <$> extendedItem else return none
    return some { h with extended := first :: more, extends? := some place }
  if ← atWord "implements" then
    if h.implements?.isSome then reportAt .implementsRepeated place
    advance
    implementedType
    discard <| many do
      if ← eat "," then some <$> implementedType else return none
    return some { h with implements? := h.implements?.or (some place) }
  return none

/-- A class from the word `class` on; its decorators and its start are given. -/
def classRest (at0 : Nat) (decos : List Node) (isDeclaration : Bool) : P Node := do
  advance
  let t ← token
  let name ←
    if t.isName && !t.isWord "implements" then some <$> bindingName else pure none
  noteTypes (← typeParameters?)
  let h ← heritage
  for (_, arguments) in h.extended do noteTypes arguments
  if let some (second, _) := (h.extended.drop 1).head? then reportAt .extendsSeveral second.start
  let members ← within (fun c => { c with inDecorator := false, allowsIn := true }) classBody
  node at0 (.classForm isDeclaration decos name (h.extended.head?.map Prod.fst) members)

end LivePreview.Script.Parser
