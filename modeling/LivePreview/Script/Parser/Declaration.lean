import LivePreview.Script.Parser.Statement

/-!
# Declarations

What only a typed script declares: interfaces, type aliases, enumerations, namespaces, and anything
behind `declare`.
-/

namespace LivePreview.Script.Parser

/-- A declaration's opening words, from the current one on. -/
def startsDeclaration : P Bool := ahead do
  let (found, _) ← improve ((none : Option Bool), ()) fun (found, _) => do
    if found.isSome then return none
    let t ← token
    if t.kind != .word then return some (some false, ())
    match t.text with
    | "var" | "let" | "const" | "function" | "class" | "enum" => return some (some true, ())
    | "interface" | "type" =>
      advance
      let u ← token
      return some (some (u.isName && !u.afterLineEnd), ())
    | "module" | "namespace" =>
      advance
      let u ← token
      return some (some ((u.isName || u.kind == .string) && !u.afterLineEnd), ())
    | "abstract" | "accessor" | "async" | "declare" | "private" | "protected" | "public"
    | "readonly" =>
      advance
      if (← token).afterLineEnd then return some (some false, ())
      return some (none, ())
    | "global" =>
      advance
      let u ← token
      return some (some (u.isMark "\x7b" || (u.kind == .word && !knownContextual u) ||
        u.isWord "export"), ())
    | "import" =>
      advance
      let u ← token
      let goesOn := u.kind == .string || u.isMark "*" || u.isMark "\x7b" || u.kind == .word
      return some (some goesOn, ())
    | "export" =>
      advance
      let u ← token
      return some (some (u.isMark "=" || u.isMark "*" || u.isWord "default" || u.isMark "\x7b" ||
        u.isMark "@" || u.isWord "as"), ())
    | "static" =>
      advance
      return some (none, ())
    | _ => return some (some false, ())
  return found == some true
where
  /-- A word with a meaning of its own. -/
  knownContextual (t : Token) : Bool := Token.knownWords.contains t.text

/-- An alias of a type, behind `type`. -/
def typeAlias (at0 : Nat) : P Node := do
  let name ← token
  discard bindingName
  let typeParameters ← typeParameters?
  expect "="
  let type ←
    if (← atWord "intrinsic") && !(← nextIs (at? ".")) then tokenText else Parser.type
  endStatement
  node at0 (.typeAlias name.text (typeParameters.toList ++ [.ofText " = ", type]))

/-- A name or a name of a namespace's member. -/
def isEntityName : Node → Bool
  | .mk _ (.name _) => true
  | .mk _ (.member object _ false) => isEntityName object
  | .mk _ (.instantiated inner _) => isEntityName inner
  | _ => false

/-- An expression as the reference to a type that it is. -/
def typeReference : Node → Node
  | .mk span (.name text) => .mk span (.typeName text)
  | .mk span (.member object text false) =>
    .mk span (.type .other [typeReference object, .ofText ("." ++ text)])
  | .mk span (.instantiated inner arguments) =>
    .mk span (.type .other [typeReference inner, arguments])
  | n => n

/-- An interface, behind `interface`. -/
def interfaceDeclaration (at0 : Nat) : P Node := do
  let name ← token
  discard bindingName
  let typeParameters ← typeParameters?
  let h ← heritage
  for (n, _) in h.extended do
    if !isEntityName n then reportAt .interfaceExtends n.start
  if let some place := h.implements? then reportAt .interfaceImplements place
  let members ← typeMembers true
  let extended := h.extended.map fun (n, arguments) =>
    Node.mk n.span (.type .other (typeReference n :: arguments.toList))
  let clause := textIf (!extended.isEmpty) " extends " ++ Node.separated ", " extended
  node at0 (.interface name.text (typeParameters.toList ++ clause ++ [.ofText " ", members]))

/-- The name of an enumeration's member: a word or a string, which may stand in brackets. -/
def enumMemberName : P (List Nat) := do
  let t ← token
  match t.kind with
  | .word => advanceName; return t.text.toList.map Char.toNat
  | .string => advance; return t.value
  | .number | .bigint => fail .numericEnumMember
  | .wholeTemplate | .templateHead => fail .computedEnumMember
  | .mark =>
    if t.text != "[" then unexpected
    advance
    let key ← enclosed innerAssignment
    expect "]"
    match key.form with
    | .string points => return points
    | .template [text] [] => return text.toList.map Char.toNat
    | .number _ => failAt .numericEnumMember key.start
    | _ => failAt .computedEnumMember key.start
  | _ => unexpected

/-- An enumeration, behind `enum`. -/
def enumDeclaration (at0 : Nat) (isConst : Bool) : P Node := do
  let name ← bindingName
  expect "\x7b"
  let (members, _) ← separated "\x7d" do
    let member0 ← start
    let name ← enumMemberName
    let value ←
      if ← eat "=" then
        some <$> within (fun c => { c with inAsync := false, inGenerator := false }) innerAssignment
      else pure none
    node member0 (.enumMember name value)
  expect "\x7d"
  match name.form with
  | .name text => node at0 (.enumeration isConst text members)
  | _ => unexpected

/-- The statements of a namespace, with their braces. -/
def namespaceBody : P (List Node) := do
  expect "\x7b"
  let body ← within (fun c => { c with allowsIn := true }) (statementList true)
  expect "\x7d"
  return body

/-- A module that exists elsewhere, by its name or as the global scope, behind its name. -/
def ambientDeclaration (at0 : Nat) (name : Option (List Nat)) : P Node := do
  if name.isNone || (← at? "\x7b") then
    let body ← within (fun c => { c with isAmbient := true }) namespaceBody
    return ← node at0 (.ambientBlock name (some body))
  endStatement
  node at0 (.ambientBlock name none)

/-- A namespace behind its keyword, by its dotted name or by a string. -/
def namespaceDeclaration (at0 : Nat) (keyword : String) : P Node := do
  let t ← token
  if t.kind == .string then
    advance
    return ← ambientDeclaration at0 (some t.value)
  let names ← do
    let first ← bindingName
    let rest ← many do
      if ← eat "." then some <$> propertyWord else return none
    pure (first :: rest)
  let body ← namespaceBody
  let texts := names.map fun n => match n.form with | .name text => text | _ => ""
  match texts.reverse with
  | [] => unexpected
  | last :: outer =>
    let inner ← node at0 (.namespaceBlock keyword last body)
    return outer.foldl (fun n name =>
      .mk n.span (.namespaceBlock keyword name [.mk n.span (.exportDeclaration n)])) inner

/-- A qualified name, as a chain of members. -/
def entityName : P Node := do
  let at0 ← start
  let first ← referenceName
  improve first fun n => do
    if ← eat "." then
      let t ← token
      discard propertyWord
      return some (← node at0 (.member n t.text false))
    return none

/-- What `import a =` binds, behind the equals sign. -/
def importEqualsRest (at0 : Nat) (isType : Bool) (name : String) : P Node := do
  if ← atWord "require" then
    let call0 ← start
    advance
    expect "("
    let source ← stringLiteral
    expect ")"
    let value ← node call0 (.call (.ofName "require") [source] false false)
    endStatement
    node at0 (.importEquals isType true name value)
  else
    let value ← entityName
    endStatement
    node at0 (.importEquals isType false name value)

/-- `import a = …`, behind `import`. -/
def importAlias (at0 : Nat) : P Node := do
  let isType ← do
    if (← atWord "type") && (← nextIs do return (← token).isName) then
      advance
      pure true
    else pure false
  let t ← token
  discard bindingName
  expect "="
  importEqualsRest at0 isType t.text

/-- The modifiers that a declaration may have. -/
def declarationModifiers (t : Token) : List String :=
  match t.text with
  | "class" => ["declare", "abstract"]
  | "function" => ["declare", "async"]
  | _ => ["declare"]

/-- A function starts here, without modifiers. -/
def atFunction : P Bool := do
  if ← atWord "function" then return true
  if ← atWord "async" then nextIsWord "function" else return false

/-- A declaration behind its modifiers. -/
def modifiedDeclaration (at0 : Nat) (decos : List Node) (found : List Token) : P Node := do
  let declared := hasModifier found "declare"
  let t ← token
  checkModifiers found (declarationModifiers t) .declaration
  if !t.isWord "class" then checkUndecorated decos
  let n ← within (fun c => { c with isAmbient := c.isAmbient || declared }) do
    match t.text with
    | "var" => advance; variableStatement at0 .varKind .list
    | "let" => advance; variableStatement at0 .letKind .list
    | "const" =>
      advance
      if ← eatWord "enum" then enumDeclaration at0 true
      else variableStatement at0 .constKind .list
    | "function" => functionDeclaration at0 (hasModifier found "async") false declared false
    | "class" => classRest at0 decos true
    | "enum" => advance; enumDeclaration at0 false
    | "interface" => advance; interfaceDeclaration at0
    | "type" => advance; typeAlias at0
    | "module" | "namespace" => advance; namespaceDeclaration at0 t.text
    | "global" => advance; ambientDeclaration at0 none
    | "import" => advance; importAlias at0
    | "using" => fail .usingExported
    | _ => unexpected
  if declared && !t.isWord "import" then node at0 (.declared n) else return n

/-- A declaration at its modifiers; `before` are modifiers that were read already, and `decos` the
decorators before it. -/
def declaration (at0 : Nat) (decos : List Node) (before : List String) : P Node := do
  if ← atFunction then
    checkUndecorated decos
    let isAsync ← eatWord "async"
    functionDeclaration at0 isAsync true false false
  else modifiedDeclaration at0 decos (← modifiersBehind before false false)

end LivePreview.Script.Parser
