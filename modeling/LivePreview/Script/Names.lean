import LivePreview.Script.Fold

/-!
# Names and where they are bound

1. `Names` collects, for a stretch of a script, the values that it uses and does not bind itself. A
   `var` binds in the enclosing function, other declarations in the enclosing block.
2. `Node.declares` tells what the names mean that a statement declares in its block, types among
   them.
-/

namespace LivePreview.Script

/-- The names that a pattern binds. -/
def boundNames (pattern : Node) : List String :=
  pattern.fold fun n inside =>
    match n.form with
    | .name text => [text]
    | .property _ _ false _ => (inside.drop 1).flatten
    | .withDefault .. => (inside.take 1).flatten
    | .parameter decorators .. => (inside.drop decorators.length).flatten
    | .variable .. => (inside.take 1).flatten
    | .property .. | .arrayPattern .. | .objectPattern .. | .rest _ => inside.flatten
    | _ => []

/-- The text of a name that may be missing. -/
def Node.textOf (name : Option Node) : List String :=
  match name.map Node.form with
  | some (.name text) => [text]
  | _ => []

/-- The name of a member of an enumeration. -/
def Node.memberName (n : Node) : List String :=
  match n.form with
  | .enumMember points _ => [String.ofList (points.map Char.ofNat)]
  | _ => []

/-- What a stretch of a script uses and binds. -/
structure Names where
  /-- Names whose value is used and that are not bound inside. -/
  uses : List String
  /-- Names that `var` binds in the enclosing function. -/
  vars : List String
  /-- Names that are bound in the enclosing block. -/
  lexical : List String

namespace Names

/-- Nothing used, nothing bound. -/
def none : Names := ⟨[], [], []⟩

/-- What stretches one behind the other use and bind. -/
def join (parts : List Names) : Names :=
  ⟨parts.flatMap (·.uses), parts.flatMap (·.vars), parts.flatMap (·.lexical)⟩

/-- The uses that some names do not satisfy. -/
def without (names : Names) (bound : List String) : Names :=
  { names with uses := names.uses.filter fun u => !bound.contains u }

/-- A block closes: what is bound in it is not seen outside. -/
def closeBlock (names : Names) : Names :=
  { names.without names.lexical with lexical := [] }

/-- A function closes. -/
def closeFunction (names : Names) (bound : List String) : Names :=
  { names.without (bound ++ names.vars ++ names.lexical) with vars := [], lexical := [] }

/-- The name of an alias that is made by an import and not exported. -/
def aliasOf (n : Node) : Option String :=
  match n.form with
  | .importEquals false _ name _ => some name
  | _ => Option.none

/-- The aliases that statements make and that are used, and what the statements use. An alias that
neither what is used so far nor a statement behind it names goes, and what it names is not used. -/
def keepAliases (kept uses : List String) :
    List (Option String × List String) → List String × List String
  | [] => (kept, uses)
  | (some name, more) :: rest =>
    if uses.contains name || rest.any fun r => r.2.contains name then
      keepAliases (name :: kept) (uses ++ more) rest
    else keepAliases kept uses rest
  | (.none, more) :: rest => keepAliases kept (uses ++ more) rest

/-- The aliases that statements make and that are used, and what the statements use. -/
def aliasesIn (body : List Node) (names : List Names) : List String × List String :=
  if body.all fun n => (aliasOf n).isNone then ([], names.flatMap (·.uses))
  else keepAliases [] [] ((body.zip names).map fun (n, names) => (aliasOf n, names.uses))

/-- What statements use and bind, apart from what only unused aliases name. -/
def joinBody (body : List Node) (names : List Names) : Names :=
  { join names with uses := (aliasesIn body names).2 }

/-- What a node uses and binds, from what its children do. -/
def ofNode (n : Node) (inside : List Names) : Names :=
  match n.form with
  | .name text => { Names.none with uses := [text] }
  | .property _ _ false _ => join (inside.drop 1)
  | .method decorators _ _ false _ _ | .field decorators _ false _ _ =>
    join (inside.take decorators.length ++ inside.drop (decorators.length + 1))
  | .exportNames isType _ source =>
    if isType || source.isSome then Names.none else join inside
  | .exportSpecifier _ _ isType => if isType then Names.none else join inside
  | .importEquals isType _ name _ =>
    if isType then Names.none else { join inside with lexical := [name] }
  | .function place _ name parameters _ =>
    let names := (join inside).closeFunction (parameters.flatMap boundNames ++ Node.textOf name)
    if place == .declaration then { names with lexical := Node.textOf name } else names
  | .arrow _ _ parameters _ | .parameterList parameters =>
    (join inside).closeFunction (parameters.flatMap boundNames)
  | .classForm isDeclaration _ name _ _ =>
    let names := (join inside).closeFunction (Node.textOf name)
    if isDeclaration then { names with lexical := Node.textOf name } else names
  | .block body => (joinBody body inside).closeBlock
  | .functionBody body => joinBody body inside
  | .forLoop .. | .forInLoop .. | .forOfLoop .. => (join inside).closeBlock
  | .switchOn .. => join (inside.take 1 ++ [(join (inside.drop 1)).closeBlock])
  | .staticBlock _ | .ambientBlock .. => (join inside).closeFunction []
  | .catchClause parameter _ => (join inside).without ((parameter.map boundNames).getD [])
  | .variables binder items =>
    let bound := items.flatMap boundNames
    let names := join inside
    if binder == .varKind then { names with vars := names.vars ++ bound }
    else { names with lexical := names.lexical ++ bound }
  | .enumeration _ name members =>
    { (join inside).without (members.flatMap Node.memberName) with lexical := [name] }
  | .namespaceBlock _ name body =>
    { (joinBody body inside).closeFunction [] with lexical := [name] }
  | _ => join inside

/-- What a node uses and binds. -/
def of (n : Node) : Names := n.fold ofNode

end Names

/-- The names that a node binds for what stands inside it. -/
def Node.bindsInside : Node → List String
  | .mk _ form =>
    let names := Names.join (Form.foldChildren Names.ofNode form)
    match form with
    | .function _ _ name parameters _ =>
      parameters.flatMap boundNames ++ Node.textOf name ++ names.vars ++ names.lexical
    | .arrow _ _ parameters _ => parameters.flatMap boundNames ++ names.vars ++ names.lexical
    | .classForm _ _ name _ _ => Node.textOf name
    | .catchClause parameter _ => (parameter.map boundNames).getD []
    | .functionBody _ | .staticBlock _ => names.vars ++ names.lexical
    | .block _ | .switchOn .. | .forLoop .. | .forInLoop .. | .forOfLoop .. => names.lexical
    | .enumeration _ _ members => members.flatMap Node.memberName
    | _ => []

/-- The names that a node has beside its children. -/
def Node.ownNames (n : Node) : List String :=
  match n.form with
  | .name text | .typeName text => [text]
  | .function _ _ name _ _ | .classForm _ _ name _ _ => Node.textOf name
  | .enumeration _ name _ | .namespaceBlock _ name _ | .typeAlias name _ | .interface name _
  | .importEquals _ _ name _ => [name]
  | .enumMember .. => n.memberName
  | .importDeclaration _ _ default space named _ _ _ =>
    Node.textOf default ++ Node.textOf space ++ (named.getD []).flatMap fun item =>
      match item.form with
      | .importSpecifier _ name _ => [name]
      | _ => []
  | _ => []

/-- Of what the children of a node give, what those give whose names are used or bound here. A key
that is not computed only looks like a name, and what is exported of another module is named
there. -/
def Node.namingParts {β : Type} (n : Node) (inside : List β) : List β :=
  match n.form with
  | .property _ _ false _ => inside.drop 1
  | .method decorators _ _ false _ _ | .field decorators _ false _ _ =>
    inside.take decorators.length ++ inside.drop (decorators.length + 1)
  | .exportNames _ _ (some _) => []
  | _ => inside

/-- Every name that occurs in a tree, used or bound, as a value or as a type. -/
def allNames (n : Node) : List String :=
  n.fold fun n inside => n.ownNames ++ (n.namingParts inside).flatten

/-! ## Declarations -/

/-- What a declared name stands for. -/
inductive Meaning where
  /-- A value that the script makes. -/
  | value
  /-- A value that something else makes. -/
  | ambient
  /-- What another module exports. -/
  | imported
  /-- A type. -/
  | type
deriving DecidableEq, Repr

/-- The types that statements declare. -/
def declaredTypes (body : List Node) : List String :=
  body.flatMap fun n =>
    match n with
    | .mk _ (.typeAlias name _) | .mk _ (.interface name _)
    | .mk _ (.exportDeclaration (.mk _ (.typeAlias name _)))
    | .mk _ (.exportDeclaration (.mk _ (.interface name _))) => [name]
    | _ => []

/-- Some specifier exports something else than one of some types. -/
def exportsValue (types : List String) (specifiers : List Node) : Bool :=
  specifiers.any fun n =>
    match n.form with
    | .exportSpecifier (.mk _ (.name text)) _ _ => !types.contains text
    | _ => true

/-- A statement for which a namespace is made, among others that declare some types. What exists for
types only is none, nor is an alias, nor a directive. -/
def Node.leavesCode (types : List String) : Node → Bool
  | .mk _ form =>
    match form with
    | .typeAlias .. | .interface .. | .importEquals .. | .directive _ => false
    | .declared n => n.leavesCode types
    | .namespaceBlock _ _ body | .ambientBlock _ (some body) =>
      anyLeavesCode (declaredTypes body) body
    | .ambientBlock _ none => false
    | .exportNames _ specifiers none => exportsValue types specifiers
    | .exportDeclaration (.mk _ (.importEquals ..)) => true
    | .exportDeclaration n => n.leavesCode types
    | _ => true
where
  /-- One of some statements leaves code. -/
  anyLeavesCode (types : List String) : List Node → Bool
    | [] => false
    | n :: ns => n.leavesCode types || anyLeavesCode types ns

/-- One of the statements of a namespace leaves code. -/
def leaveCode (body : List Node) : Bool := Node.leavesCode.anyLeavesCode (declaredTypes body) body

/-- The names that an import declares. -/
def importedNames (isType : Bool) (default space : Option Node) (named : Option (List Node)) :
    List (String × Meaning) :=
  let meaning (isType : Bool) : Meaning := if isType then .type else .imported
  (Node.textOf default ++ Node.textOf space).map (·, meaning isType) ++
    (named.getD []).flatMap fun item =>
      match item.form with
      | .importSpecifier _ name isTypeItem => [(name, meaning (isType || isTypeItem))]
      | _ => []

/-- The names that a statement declares in its block, and what they stand for. -/
def Node.declares : Node → List (String × Meaning)
  | .mk span form =>
    match form with
    | .exportDeclaration n | .exportDefault n => n.declares
    | .declared n => n.declares.map fun (name, meaning) =>
      (name, if meaning == .value then .ambient else meaning)
    | .importDeclaration isType _ default space named _ _ _ =>
      importedNames isType default space named
    | .importEquals _ _ name _ => [(name, .value)]
    | .namespaceBlock _ name body => [(name, if leaveCode body then .value else .type)]
    | .typeAlias name _ | .interface name _ => [(name, .type)]
    | form =>
      let names := Names.of (.mk span form)
      (names.vars ++ names.lexical).map (·, .value)

end LivePreview.Script
