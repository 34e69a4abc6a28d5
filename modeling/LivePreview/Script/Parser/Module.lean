import LivePreview.Script.Parser.Declaration

/-!
# Imports and exports
-/

namespace LivePreview.Script.Parser

/-- The names among some attributes that one behind them has too, with their places. -/
def repeatedAttributes : List Node → List (String × Nat)
  | [] => []
  | n :: ns =>
    let key := attributeKey n
    let first := (ns.find? fun m => attributeKey m == key).map fun _ => (key, n.start)
    first.toList ++ repeatedAttributes ns
where
  /-- The name of an attribute. -/
  attributeKey (n : Node) : String :=
    match n.form with
    | .property (.mk _ (.name text)) .. => text
    | .property (.mk _ (.string points)) .. => String.ofList (points.map Char.ofNat)
    | _ => ""

/-- The attributes behind a source, with the word in front of them if there are any. -/
def importAttributes : P (Option String × List Node) := do
  let t ← token
  if !(t.isWord "with" || (t.isWord "assert" && !t.afterLineEnd)) then return (none, [])
  advance
  expect "\x7b"
  let (items, _) ← separated "\x7d" do
    let at0 ← start
    let u ← token
    if u.kind != .word && u.kind != .string then unexpected
    let (key, _) ← propertyName
    expect ":"
    if !(← atKind .string) then fail .attributeValue
    let value ← stringLiteral
    node at0 (.property key value false false)
  expect "\x7d"
  for (name, place) in repeatedAttributes items do reportAt (.repeatedAttribute name) place
  return (some t.text, items)

/-- The script turns out to be a module. -/
def beModule : P Unit := modify fun s => { s with isModule := true }

/-- A name across modules: any word or a string. -/
def moduleName : P Node := do
  let t ← token
  if t.kind != .string then return ← propertyWord
  if t.value.any fun n => 0xD800 ≤ n && n < 0xE000 then fail .loneSurrogateName
  stringLiteral

/-- The token may be a name across modules. -/
def startsModuleName (t : Token) : Bool := t.kind == .word || t.kind == .string

/-- One item of an import or export in braces: its first name, its second if there is one, and
whether it is for types only. The word `type` may itself be a name. -/
def moduleItem : P (Node × Option Node × Bool) := do
  let first ← token
  let name ← moduleName
  let renamed (name : Node) (isType : Bool) : P (Node × Option Node × Bool) := do
    if ← eatWord "as" then return (name, some (← moduleName), isType)
    return (name, none, isType)
  let (name, second?, isType) ← do
    if !first.isWord "type" then renamed name false
    else if ← atWord "as" then
      let firstAs ← propertyWord
      if ← atWord "as" then
        let secondAs ← propertyWord
        if startsModuleName (← token) then pure (firstAs, some (← moduleName), true)
        else pure (name, some secondAs, false)
      else if startsModuleName (← token) then pure (name, some (← moduleName), false)
      else pure (firstAs, none, true)
    else if startsModuleName (← token) then
      let name ← moduleName
      renamed name true
    else renamed name false
  if isType && first.escaped then reportAt .escapedKeyword first.span.start
  return (name, second?, isType)

/-- An item for types only has nothing to add where all are. -/
def checkTypeItem (isType : Bool) (diagnostic : Diagnostic) (n : Node) : P Unit := do
  match n.form with
  | .importSpecifier _ _ true | .exportSpecifier _ _ true =>
    if isType then reportAt diagnostic n.start
  | _ => pure ()

/-- The text of a name node. -/
def nameText (n : Node) : String :=
  match n.form with
  | .name text => text
  | _ => ""

/-- The items of an import in braces. -/
def importItems : P (List Node) := do
  expect "\x7b"
  let (items, _) ← separated "\x7d" do
    let at0 ← start
    let (first, second?, isType) ← moduleItem
    let localName := second?.getD first
    match localName.form with
    | .name text =>
      if Token.reservedWords.contains text then failAt (.reservedName text) localName.start
      node at0 (.importSpecifier first text isType)
    | _ => failAt .missingImportName localName.start
  expect "\x7d"
  return items

/-- What stands for all of a module. -/
def importSpace : P Node := do
  advance
  expectWord "as"
  bindingName

/-- How the word in front of an import's names changes it: it is for types only, or of a phase. -/
def importKind (first : Token) : P (Bool × String) := do
  let t ← token
  let named ←
    if t.isWord "from" then nextIs do let u ← token; return u.isWord "from" || u.isMark "="
    else pure t.isName
  if first.isWord "type" then return (named || t.isMark "*" || t.isMark "\x7b", "")
  if first.isWord "defer" then
    let isName ←
      if t.isWord "from" then nextIs (atKind .string) else pure (t.isMark "," || t.isMark "=")
    return (false, if isName then "" else "defer")
  if first.isWord "source" && (named || t.isMark "*" || t.isMark "\x7b") then
    return (false, "source")
  return (false, "")

/-- Reports what an import's names cannot be. -/
def checkImport (isType : Bool) (phase : String) (default : Option Node) (space : Option Node)
    (named : Option (List Node)) : P Unit := do
  if phase == "defer" then
    if let some n := default then reportAt .deferredDefault n.start
    if let some ns := named then
      reportAt .deferredNames ((ns.head?.map Node.start).getD (← get).lastStop)
  if isType then
    if let some n := default then
      if space.isSome || named.isSome then reportAt .typeImportDefaultAndNames n.start
  for n in named.getD [] do checkTypeItem isType .typeItemInTypeImport n

/-- An import behind its word. -/
def importDeclaration (at0 : Nat) : P Node := do
  if ← atKind .string then
    beModule
    let source ← stringLiteral
    let (word, attributes) ← importAttributes
    endStatement
    return ← node at0 (.importDeclaration false "" none none none source word attributes)
  let first ← token
  let default ← if first.isName then some <$> bindingName else pure none
  let (isType, phase) ← if default.isSome then importKind first else pure (false, "")
  let default ←
    if isType || phase != "" then
      if (← token).isName then some <$> bindingName else pure none
    else pure default
  if default.isSome && phase == "" && (← eat "=") then
    return ← importEqualsRest at0 isType (nameText (default.getD (.ofName "")))
  beModule
  if phase == "source" && default.isNone then fail .sourcePhaseNames
  let comma ← if default.isSome && phase != "source" then eat "," else pure false
  let space ←
    if (default.isNone || comma) && (← at? "*") then some <$> importSpace else pure none
  let named ←
    if (default.isNone || comma) && space.isNone && (← at? "\x7b") then some <$> importItems
    else pure none
  if comma && space.isNone && named.isNone then unexpected
  checkImport isType phase default space named
  expectWord "from"
  let source ← stringLiteral
  let (word, attributes) ← importAttributes
  endStatement
  node at0 (.importDeclaration isType phase default space named source word attributes)

/-- An import at its word; before a point or a parenthesis it is an expression. -/
def importStatement : P Node := do
  let at0 ← start
  if ← nextIs do return (← at? ".") || (← at? "(") then expressionStatement
  else
    advance
    importDeclaration at0

/-- The words that a later edition of the language may reserve. -/
def laterReservedWords : List String :=
  ["implements", "interface", "package", "private", "protected", "public", "static"]

/-- An export that names what it exports. -/
def exportItems (at0 : Nat) (isType : Bool) : P Node := do
  expect "\x7b"
  let (items, _) ← separated "\x7d" do
    let item0 ← start
    let (first, second?, isItemType) ← moduleItem
    let n ← node item0 (.exportSpecifier first (second?.getD first) isItemType)
    checkTypeItem isType .typeItemInTypeExport n
    return n
  expect "\x7d"
  let source ← if ← eatWord "from" then some <$> stringLiteral else pure none
  if source.isSome then discard importAttributes
  if source.isNone then
    for item in items do
      match item.form with
      | .exportSpecifier inner _ _ =>
        match inner.form with
        | .name text =>
          if Token.reservedWords.contains text || laterReservedWords.contains text then
            reportAt .reservedExportWithoutSource inner.start
        | _ => reportAt .stringExportWithoutSource inner.start
      | _ => pure ()
  endStatement
  node at0 (.exportNames isType items source)

/-- An export of all that a module exports. -/
def exportAll (at0 : Nat) (isType : Bool) : P Node := do
  advance
  let space ← if ← eatWord "as" then some <$> moduleName else pure none
  expectWord "from"
  let source ← stringLiteral
  let (word, attributes) ← importAttributes
  endStatement
  node at0 (.exportAll isType space source word attributes)

/-- Decorators behind `export`, with those before it; they stand on one side only. -/
def decoratorsBehind (before : List Node) : P (List Node) := do
  let behind ← decorators
  if !before.isEmpty then
    for n in behind do reportAt .decoratorsAroundExport (n.start - 1)
  return before ++ behind

/-- The default export, behind `default`. -/
def exportDefault (at0 : Nat) (before : List Node) : P Node := do
  let decos ← decoratorsBehind before
  let inner0 ← start
  if ← atFunction then
    let isEffectless ← annotated .effectlessFunction
    let isAsync ← eatWord "async"
    let f ← functionDeclaration inner0 isAsync true false true
    node at0 (.exportDefault (if isEffectless then markEffectless f else f))
  else if (← atWord "class") || ((← atWord "abstract") && (← nextIsWord "class")) then
    discard (eatWord "abstract")
    let c ← classRest inner0 decos true
    node at0 (.exportDefault c)
  else if (← atWord "interface") &&
      (← nextIs do let u ← token; return u.isName && !u.afterLineEnd) then
    advance
    let n ← interfaceDeclaration inner0
    node at0 (.exportDefault n)
  else
    let value ← innerAssignment
    endStatement
    node at0 (.exportDefault value)

/-- A class behind `export` and its decorators; whatever stands at its word is taken for it. -/
def exportDecorated (at0 : Nat) (before : List Node) : P Node := do
  let inner0 ← start
  let decos ← decoratorsBehind before
  let found ← modifiers false false
  checkModifiers found ["declare", "abstract"] .declaration
  let c ← classRest inner0 decos true
  let c ← if hasModifier found "declare" then node inner0 (.declared c) else pure c
  node at0 (.exportDeclaration c)

/-- An exported import, which must be an alias. -/
def exportImport (at0 : Nat) : P Node := do
  let inner0 ← start
  advance
  let n ← importDeclaration inner0
  match n.form with
  | .importEquals .. => node at0 (.exportDeclaration n)
  | _ => failAt .exportedImport at0

/-- The functions that a declaration holds first have no effect but their value: a function, or what
the first constant is. -/
def markDeclaration (n : Node) : Node :=
  match n.form with
  | .variables .constKind (.mk s (.variable pattern (some value)) :: items) =>
    .mk n.span (.variables .constKind
      (.mk s (.variable pattern (some (markEffectless value))) :: items))
  | .exportDefault inner =>
    match inner.form with
    | .function .declaration .. => .mk n.span (.exportDefault (markEffectless inner))
    | _ => n
  | .function .declaration .. => markEffectless n
  | _ => n

/-- A declaration that is exported. -/
def exportDeclared (at0 : Nat) (decos : List Node) : P Node := do
  let inner0 ← start
  let isEffectless ← annotated .effectlessFunction
  let n ← declaration inner0 decos ["export"]
  node at0 (.exportDeclaration (if isEffectless then markDeclaration n else n))

/-- An export at its word; `decos` are the decorators before it. -/
def exportStatement (at0 : Nat) (decos : List Node) : P Node := do
  advance
  let t ← token
  if t.isMark "=" then
    advance
    let value ← innerAssignment
    endStatement
    return ← node at0 (.exportEquals value)
  if t.isWord "as" then
    advance
    expectWord "namespace"
    let name ← bindingName
    endStatement
    return ← node at0 (.exportGlobal (nameText name))
  if t.isWord "import" then return ← exportImport at0
  beModule
  match t.kind with
  | .mark =>
    match t.text with
    | "*" => exportAll at0 false
    | "\x7b" => exportItems at0 false
    | "@" => exportDecorated at0 decos
    | _ => unexpected
  | .word =>
    match t.text with
    | "default" =>
      advance
      exportDefault at0 decos
    | "using" => fail .usingExported
    | "type" =>
      if ← nextIs (at? "\x7b") then
        advance
        exportItems at0 true
      else if ← nextIs (at? "*") then
        advance
        exportAll at0 true
      else exportDeclared at0 decos
    | "await" => if ← atAwaitUsing then fail .usingExported else exportDeclared at0 decos
    | _ => exportDeclared at0 decos
  | _ => unexpected

end LivePreview.Script.Parser
