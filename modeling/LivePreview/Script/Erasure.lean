import LivePreview.Script.Constant
import LivePreview.Script.Names

/-!
# Taking the types out

What is left of a typed script runs: the statements that exist for types only go, and so do the
imports that no value uses. Enumerations and namespaces become functions that fill an object,
fields declared by a constructor's parameters are assigned in it, and a module that would be left
without any import or export keeps `export {}`. Imports and exports that are not among the
statements of the script or of a namespace stay as they are, and so does a declaration behind a
label.
-/

namespace LivePreview.Script

namespace Erasure

/-- What holds for the whole script. -/
structure Facts where
  /-- Names whose value is used and not bound inside. -/
  uses : List String
  /-- Names that statements of the script declare as values, here or elsewhere. -/
  values : List String
  /-- Names that stand for nothing that runs here. -/
  absent : List String
  /-- Aliases that an import makes in this block and that are used. -/
  aliases : List String

/-- Where in a script a node stands. -/
structure Scope where
  facts : Facts
  /-- Inside a function or a block. -/
  isNested : Bool
  /-- Members of an enumeration that are named without it, with its name. -/
  members : List (String × String)
  /-- What statements before this one have declared in its block. -/
  declared : List (String × Meaning)

namespace Scope

/-- The scope inside a node, whose own names hide members of an enumeration. -/
def enter (scope : Scope) (n : Node) : Scope :=
  if scope.members.isEmpty then scope
  else
    let bound := n.bindsInside
    { scope with members := scope.members.filter fun m => !bound.contains m.1 }

/-- The scope inside a list of statements, which may make aliases of its own. -/
def enterBody (scope : Scope) (body : List Node) : Scope :=
  if body.any fun n => (Names.aliasOf n).isSome then
    let (aliases, _) := Names.aliasesIn body (body.map Names.of)
    { scope with facts := { scope.facts with aliases } }
  else scope

/-- A name has been declared before, with one of some meanings. -/
def hasDeclared (scope : Scope) (name : String) (counts : Meaning → Bool) : Bool :=
  scope.declared.any fun d => d.1 == name && counts d.2

end Scope

/-- Names that are taken, the enumerations so far, and what made the erasure fail. -/
structure State where
  taken : List String
  /-- The members of each enumeration, those of all its declarations so far. -/
  enumerations : List (String × Constant.Members)
  failure : Option String

/-- A step of the erasure. -/
abbrev Step := StateM State

/-- A node that erasure puts in. -/
def build (form : Form) : Node := .mk ⟨0, 0⟩ form

/-- A string as a node. -/
def textNode (points : List Nat) : Node := build (.string points)

/-- The underscores in front of a name, the number at its end (one if there is none), and what
stands between them. -/
def nameParts (name : String) : Nat × List Char × Nat :=
  let behind := name.toList.dropWhile (· == '_')
  let digits := (behind.reverse.takeWhile Text.isDecimal).reverse
  (name.length - behind.length, behind.take (behind.length - digits.length),
    if digits.isEmpty then 1 else Text.readDecimal digits)

/-- The name behind the last of those that differ from it in underscores and number only: `_name`
if there is none, and otherwise the one with the next number. -/
def freshName (taken : List String) (name : String) : String :=
  let stem := (nameParts name).2.1
  let rivals := taken.filterMap fun t =>
    let (underscores, middle, number) := nameParts t
    if underscores != 0 && middle == stem then some (underscores, number) else none
  let later (a b : Nat × Nat) : Nat × Nat :=
    if a.1 < b.1 || (a.1 == b.1 && a.2 < b.2) then b else a
  let last := rivals.foldl later (0, 0)
  if last.1 == 0 then "_" ++ String.ofList stem
  else String.ofList (List.replicate last.1 '_' ++ stem ++ Text.decimal (last.2 + 1))

/-- A name that nothing else has. -/
def fresh (name : String) : Step String := do
  let s ← get
  let name := freshName s.taken name
  set { s with taken := name :: s.taken }
  return name

/-- The erasure fails; the first cause counts. -/
def fail (cause : String) : Step Unit :=
  modify fun s => { s with failure := s.failure <|> some cause }

/-- The only node, or an empty block in place of a statement that went away. -/
def single (ns : List Node) : Node :=
  match ns with
  | [n] => n
  | ns => build (.block ns)

/-- The node of a number. -/
def numberNode (x : Float) : Node :=
  let text := match Constant.toBinary64 x with
    | .infinite => if x.isNaN then "NaN" else "Infinity"
    | size => String.ofList (Numeral.render size)
  let size :=
    if text == "NaN" || text == "Infinity" then Node.ofName text
    else build (.number text.toList)
  if Constant.isNegative x then build (.unary "-" size) else size

/-- The name of a node that is one. -/
def nameOf (n : Node) : String :=
  match n.form with
  | .name text => text
  | _ => ""

/-- A declaration that exists for types only, or a namespace. -/
def isTypeDeclaration (n : Node) : Bool :=
  match n.form with
  | .declared _ | .typeAlias .. | .interface .. | .ambientBlock .. | .namespaceBlock ..
  | .function _ _ _ _ none | .importEquals true .. => true
  | _ => false

/-- A statement that is for types, where it stands in place of a block. -/
def isTypeStatement (n : Node) : Bool :=
  match n.form with
  | .enumeration .. => true
  | .importEquals .. => false
  | _ => isTypeDeclaration n

/-! ## Enumerations -/

/-- A call or a construction, which may have effects. -/
def mayAct (n : Node) : Bool :=
  match n.form with
  | .enumMember _ (some value) =>
    match value.form with
    | .call .. | .newCall .. => true
    | _ => false
  | _ => false

/-- What a member of an enumeration is set to. -/
inductive MemberValue where
  | constant (c : Constant)
  /-- Its initializer. -/
  | computed
  /-- One more than the member before it. -/
  | successor (before : List Nat)

/-- What the members of an enumeration are set to, and all its members then, given those of its
declarations before this one; `before` is the member before these. -/
def memberValues (enumerations : List (String × Constant.Members)) :
    List Node → Constant.Members → Option (List Nat × Option Constant) →
      List MemberValue × Constant.Members
  | [], seen, _ => ([], seen)
  | .mk _ (.enumMember name source) :: rest, seen, before =>
    let value : MemberValue :=
      match source, before with
      | some n, _ =>
        match Constant.of enumerations seen n with
        | some c => .constant c
        | none => .computed
      | none, none => .constant (.number 0.0)
      | none, some (_, some (.number x)) => .constant (.number (x + 1.0))
      | none, some (before, _) => .successor before
    let known := match value with
      | .constant c => some c
      | _ => none
    let (values, seen) :=
      memberValues enumerations rest ((name, known) :: seen) (some (name, known))
    (value :: values, seen)
  | _ :: rest, seen, before => memberValues enumerations rest seen before

/-- The statement that sets a member; from a value that is no text its name is found again. -/
def memberStatement (span : Span) (enumeration : String) (member : List Nat) (isText : Bool)
    (value : Node) : Node :=
  let slot (key : Node) : Node := build (.index (.ofName enumeration) key false)
  let filled := build (.assign "=" (slot (textNode member)) value)
  if isText then .mk span (.expression filled)
  else .mk span (.expression (build (.assign "=" (slot filled) (textNode member))))

/-- The statement that an enumeration becomes. -/
def enumerationStatement (span : Span) (scope : Scope) (isExported isPure : Bool) (name : String)
    (members : List Node) : Node :=
  let filled := build (.returnWith (some (.ofName name)))
  let body : Node := .mk span (.functionBody (members ++ [filled]))
  let function := build (.function .expression .plain none [.ofName name] (some body))
  let isDeclared := scope.hasDeclared name fun _ => true
  let isLocal := (isExported || scope.isNested) && !isDeclared
  let empty := build (.object [])
  let argument := if isLocal then empty else build (.binary "||" (.ofName name) empty)
  let call := build (.call function [argument] false isPure)
  if isDeclared then .mk span (.expression (build (.assign "=" (.ofName name) call)))
  else
    let binder := if isLocal then Binder.letKind else .varKind
    .mk span (.variables binder [build (.variable (.ofName name) (some call))])

/-! ## Namespaces -/

/-- Why a namespace that exports a variable is refused. -/
def nonConstantExport : String :=
  "Namespaces exporting non-const are not supported by Oxc. Change to const or see: " ++
    "https://oxc.rs/docs/guide/usage/transformer/typescript.html#partial-namespace-support"

/-- Why a module that has a name of its own and is not declared to exist elsewhere is refused. -/
def nestedAmbientModule : String :=
  "Ambient modules cannot be nested in other modules or namespaces."

/-- The statement that fills a namespace's object; `outer` is the object it is a member of. -/
def namespaceStatement (span : Span) (name object : String) (outer : Option String)
    (body : List Node) : Node :=
  let function := build (.function .parenthesized .plain none [.ofName object]
    (some (build (.functionBody body))))
  let empty := build (.object [])
  let initial :=
    match outer with
    | none => empty
    | some o =>
      let slot := build (.member (.ofName o) name false)
      build (.binary "||" slot (build (.assign "=" slot empty)))
  let argument := build (.binary "||" (.ofName name) (build (.assign "=" (.ofName name) initial)))
  .mk span (.expression (build (.call (build (.parenthesized function)) [argument] false false)))

/-- `object.name = name;` -/
def exportStatement (object name : String) : Node :=
  let slot := build (.member (.ofName object) name false)
  build (.expression (build (.assign "=" slot (.ofName name))))

/-- The variable that an alias made by an import becomes. -/
def importAlias (span : Span) (isRequire : Bool) (name : String) (value : Node) : Node :=
  let binder := if isRequire then Binder.constKind else .varKind
  .mk span (.variables binder [build (.variable (.ofName name) (some value))])

/-- The variables that a namespace exports: each is assigned to a member of its object. -/
def exportedVariables (object : String) (span : Span) (binder : Binder) (items : List Node) :
    List Node :=
  let isPlain (n : Node) : Bool :=
    match n.form with
    | .variable pattern _ => match pattern.form with | .name _ => true | _ => false
    | _ => false
  if items.all isPlain then
    let items := items.map fun n =>
      match n.form with
      | .variable pattern (some value) =>
        let slot := build (.member (.ofName object) (nameOf pattern) false)
        .mk n.span (.variable pattern (some (build (.assign "=" slot value))))
      | _ => n
    [.mk span (.variables binder items)]
  else
    let assigned := (items.flatMap boundNames).map fun name =>
      build (.assign "=" (build (.member (.ofName object) name false)) (.ofName name))
    [.mk span (.variables binder items), build (.expression (build (.sequence assigned)))]

/-! ## Classes -/

/-- The names of the fields that a constructor's parameters declare. -/
def parameterFields (parameters : List Node) : List String :=
  parameters.flatMap fun n =>
    match n.form with
    | .parameter _ true pattern => boundNames pattern
    | _ => []

/-- A statement that calls the constructor of the class above. -/
def isSuperCall (n : Node) : Bool :=
  match n.form with
  | .expression inner =>
    match inner.form with
    | .call callee _ _ _ => match callee.form with | .constant "super" => true | _ => false
    | _ => false
  | _ => false

/-- A directive. -/
def isDirective (n : Node) : Bool :=
  match n.form with
  | .directive _ => true
  | _ => false

/-- The body of a constructor with its fields assigned: behind the call of the constructor above
if there is one, and otherwise first. -/
def assignFields (fields : List String) (body : List Node) : List Node :=
  let assigned := fields.map fun name =>
    build (.expression (build (.assign "="
      (build (.member (build (.constant "this")) name false)) (.ofName name))))
  if fields.isEmpty then body
  else if body.any isSuperCall then
    let before := body.takeWhile fun n => !isSuperCall n
    let rest := body.dropWhile fun n => !isSuperCall n
    before ++ rest.take 1 ++ assigned ++ rest.drop 1
  else body.takeWhile isDirective ++ assigned ++ body.dropWhile isDirective

/-! ## Modules -/

/-- An item of an export that stands for a value. -/
def keepsExport (facts : Facts) (hasSource : Bool) (n : Node) : Bool :=
  match n.form with
  | .exportSpecifier inner _ isType =>
    !isType && (hasSource || match inner.form with
      | .name text => !facts.absent.contains text
      | _ => true)
  | _ => true

/-- What is left of an import. A name that a statement declares anew is not the import's. -/
def eraseImport (facts : Facts) (span : Span) (phase : String) (default space : Option Node)
    (named : Option (List Node)) (source : Node) (attributeWord : Option String)
    (attributes : List Node) : List Node :=
  let isUsed (name : String) : Bool := facts.uses.contains name && !facts.values.contains name
  let default' := default.filter fun n => isUsed (nameOf n)
  let space' := space.filter fun n => isUsed (nameOf n)
  let named' := named.map fun items => items.filter fun n =>
    match n.form with
    | .importSpecifier _ name isType => !isType && isUsed name
    | _ => true
  let hadNames := default.isSome || space.isSome || named.any (!·.isEmpty)
  let hasNames := default'.isSome || space'.isSome || named'.any (!·.isEmpty)
  if hadNames && !hasNames then []
  else
    let named'' := named'.filter (!·.isEmpty)
    [.mk span
      (.importDeclaration false phase default' space' named'' source attributeWord attributes)]

/-! ## All nodes -/

/-- A class member's function whose parameters may declare fields. -/
def withFields (kind : MemberKind) (written erased : Node) : Node :=
  match kind, written.form, erased.form with
  | .construct, .function _ _ _ declared _, .function place traits name ps (some body) =>
    match body.form with
    | .functionBody statements =>
      let statements := assignFields (parameterFields declared) statements
      .mk erased.span
        (.function place traits name ps (some (.mk body.span (.functionBody statements))))
    | _ => erased
  | _, _, _ => erased

/-- The names of an enumeration's members, those of its declarations before this one first. -/
def memberNames (before : Constant.Members) (name : String) : List (String × String) :=
  before.map fun m => (String.ofList (m.1.map Char.ofNat), name)

/-- What an enumeration becomes; `statements` sets its members. -/
def enumerationOf (scope : Scope) (span : Span) (isExported : Bool) (name : String)
    (members : List Node) (statements : Scope → List MemberValue → Step (List Node)) :
    Step Node := do
  let s ← get
  let before := (s.enumerations.lookup name).getD []
  let (values, seen) := memberValues s.enumerations members before none
  set { s with enumerations := (name, seen) :: s.enumerations }
  let around := scope.enter (.mk span (.enumeration false name members))
  let inside := { around with members := memberNames before name ++ around.members }
  let statements ← statements inside values
  return enumerationStatement span scope isExported (!members.any mayAct) name statements

/-- The statements that a namespace becomes, if it leaves any. `outer` is the object it is a member
of, and `statements` fills its own. -/
def namespaceOf (scope : Scope) (span : Span) (isExported : Bool) (outer : Option String)
    (name : String) (body : List Node) (statements : Scope → String → Step (List Node)) :
    Step (List Node) := do
  if !leaveCode body then return []
  let object ← fresh name
  let inside : Scope := { scope.enterBody body with isNested := true, declared := [] }
  let statements ← statements inside object
  let filled := namespaceStatement span name object outer statements
  if scope.hasDeclared name (· != .type) then return [filled]
  let declared := build (.variables .letKind [build (.variable (.ofName name) none)])
  return [if isExported then build (.exportDeclaration declared) else declared, filled]

/-- The names that parameters bind. -/
def parameterNames (parameters : List Node) : List (String × Meaning) :=
  (parameters.flatMap boundNames).map (·, .value)

mutual

/-- What a node becomes: nothing, one node, or several statements. -/
def erase (scope : Scope) : Node → Step (List Node)
  | .mk span form => eraseForm scope span form

/-- What a form that covers some bytes becomes. -/
def eraseForm (outer : Scope) (span : Span) (form : Form) : Step (List Node) := do
    let one (form : Form) : Step (List Node) := return [.mk span form]
    let scope := outer.enter (.mk span form)
    let inner : Scope := { scope with isNested := true, declared := [] }
    match form with
    | .declared _ | .typeAlias .. | .interface .. | .ambientBlock .. | .namespaceBlock ..
    | .function _ _ _ _ none | .importEquals true .. | .typeMember _ => return []
    | .type shape ns => one (.type shape (← eraseAll scope ns))
    | .typeList ns => one (.typeList (← eraseAll scope ns))
    | .typeMembers isBody ns => one (.typeMembers isBody (← eraseAll scope ns))
    | .parameterList ns => one (.parameterList (← eraseTargets scope ns))
    | .typed n | .instantiated n _ => erase scope n
    | .name text =>
      match scope.members.lookup text with
      | some enumeration => one (.member (.ofName enumeration) text false)
      | none => one (.name text)
    | .template parts values => one (.template parts (← eraseAll scope values))
    | .tagged a b => one (.tagged (← eraseOne scope a) (← eraseOne scope b))
    | .array ns => one (.array (← eraseAll scope ns))
    | .object ns => one (.object (← eraseAll scope ns))
    | .property key value computed shorthand =>
      let key ← if computed then eraseOne scope key else pure key
      one (.property key (← eraseOne scope value) computed shorthand)
    | .function place traits name parameters (some body) =>
      let inside := { inner with declared := parameterNames parameters }
      one (.function place traits name (← eraseTargets inner parameters)
        (some (← eraseOne inside body)))
    | .arrow traits isParenthesized parameters body =>
      let inside := { inner with declared := parameterNames parameters }
      one (.arrow traits isParenthesized (← eraseTargets inner parameters) (← eraseOne inside body))
    | .classForm isDeclaration decorators name superclass members =>
      one (.classForm isDeclaration (← eraseAll inner decorators) name
        (← eraseOption inner superclass) (← eraseAll inner members))
    | .unary o a => one (.unary o (← eraseOne scope a))
    | .update o p a => one (.update o p (← eraseTarget scope a))
    | .binary o a b => one (.binary o (← eraseOne scope a) (← eraseOne scope b))
    | .assign o a b => one (.assign o (← eraseTarget scope a) (← eraseOne scope b))
    | .conditional a b c =>
      one (.conditional (← eraseOne scope a) (← eraseOne scope b) (← eraseOne scope c))
    | .call a ns o isPure => one (.call (← eraseOne scope a) (← eraseAll scope ns) o isPure)
    | .newCall a ns isPure => one (.newCall (← eraseOne scope a) (← eraseAll scope ns) isPure)
    | .member a name o => one (.member (← eraseOne scope a) name o)
    | .privateMember a name o => one (.privateMember (← eraseOne scope a) name o)
    | .index a b o => one (.index (← eraseOne scope a) (← eraseOne scope b) o)
    | .chain a => one (.chain (← eraseOne scope a))
    | .importCall phase ns => one (.importCall phase (← eraseAll scope ns))
    | .sequence ns => one (.sequence (← eraseAll scope ns))
    | .parenthesized a => one (.parenthesized (← eraseOne scope a))
    | .yieldTo d a => one (.yieldTo d (← eraseOption scope a))
    | .awaitFor a => one (.awaitFor (← eraseOne scope a))
    | .spread a => one (.spread (← eraseOne scope a))
    | .arrayPattern b ns rest =>
      one (.arrayPattern b (← eraseTargets scope ns) (← eraseOption scope rest))
    | .objectPattern b ns rest =>
      one (.objectPattern b (← eraseTargets scope ns) (← eraseOption scope rest))
    | .withDefault a b => one (.withDefault (← eraseTarget scope a) (← eraseOne scope b))
    | .rest a => one (.rest (← eraseTarget scope a))
    | .parameter decorators _ pattern =>
      let pattern ← eraseTarget scope pattern
      let isRest := match pattern with
        | .mk _ (.rest _) => true
        | _ => false
      if decorators.isEmpty || isRest then return [pattern]
      one (.parameter (← eraseAll scope decorators) false pattern)
    | .method decorators kind s computed key function =>
      let key' ← if computed then eraseOne scope key else pure key
      let function' := withFields kind function (← eraseOne scope function)
      one (.method (← eraseAll scope decorators) kind s computed key' function')
    | .field decorators words computed key value =>
      let key' ← if computed then eraseOne scope key else pure key
      one (.field (← eraseAll scope decorators) words computed key' (← eraseOption scope value))
    | .staticBlock ns => one (.staticBlock (← eraseBody (inner.enterBody ns) ns))
    | .expression a => one (.expression (← eraseOne scope a))
    | .variables binder items => one (.variables binder (← eraseAll scope items))
    | .variable a b => one (.variable (← eraseTarget scope a) (← eraseOption scope b))
    | .block ns => one (.block (← eraseBody (inner.enterBody ns) ns))
    | .functionBody ns => one (.functionBody (← eraseBody (scope.enterBody ns) ns))
    | .ifElse a b c =>
      one (.ifElse (← eraseOne scope a) (← eraseBranch inner b) (← eraseElse inner c))
    | .whileLoop a b => one (.whileLoop (← eraseOne scope a) (← eraseBranch inner b))
    | .doLoop a b => one (.doLoop (← eraseBranch inner a) (← eraseOne scope b))
    | .forLoop a b c d =>
      one (.forLoop (← eraseOption inner a) (← eraseOption inner b) (← eraseOption inner c)
        (← eraseBranch inner d))
    | .forInLoop a b c =>
      one (.forInLoop (← eraseTarget inner a) (← eraseOne inner b) (← eraseBranch inner c))
    | .forOfLoop w a b c =>
      one (.forOfLoop w (← eraseTarget inner a) (← eraseOne inner b) (← eraseBranch inner c))
    | .returnWith a => one (.returnWith (← eraseOption scope a))
    | .throwValue a => one (.throwValue (← eraseOne scope a))
    | .tryBlock a b c =>
      one (.tryBlock (← eraseOne scope a) (← eraseOption scope b) (← eraseOption scope c))
    | .catchClause a b => one (.catchClause (← eraseParameter scope a) (← eraseOne scope b))
    | .switchOn a ns => one (.switchOn (← eraseOne outer a) (← eraseAll inner ns))
    | .switchCase a ns =>
      one (.switchCase (← eraseOption scope a) (← eraseBody (scope.enterBody ns) ns))
    | .labelled label a => one (.labelled label (← eraseKept scope a))
    | .withObject a b => one (.withObject (← eraseOne scope a) (← eraseKept inner b))
    | .exportDeclaration a =>
      match a with
      | .mk span0 (.enumeration _ name members) =>
        let statements (scope : Scope) (values : List MemberValue) : Step (List Node) :=
          eraseMembers scope name values members
        match ← enumerationOf outer span0 true name members statements with
        | .mk s (.variables b items) => one (.exportDeclaration (.mk s (.variables b items)))
        | n => return [n]
      | .mk span0 (.importEquals false isRequire name value) =>
        one (.exportDeclaration (importAlias span0 isRequire name value))
      | a => one (.exportDeclaration (← eraseKept scope a))
    | .exportDefault a => one (.exportDefault (← eraseKept scope a))
    | .importEquals false isRequire name value =>
      if !scope.facts.aliases.contains name then return []
      return [importAlias ⟨0, 0⟩ isRequire name value]
    | .exportEquals a =>
      let slot := build (.member (.ofName "module") "exports" false)
      return [build (.expression (build (.assign "=" slot (← eraseOne scope a))))]
    | .enumMember name a => one (.enumMember name (← eraseOption scope a))
    | .enumeration _ name members =>
      let statements (scope : Scope) (values : List MemberValue) : Step (List Node) :=
        eraseMembers scope name values members
      return [← enumerationOf outer span false name members statements]
    | form => one form

/-- A statement that stays even if it exists for types only, with what stands inside it erased. -/
def eraseKept (scope : Scope) : Node → Step Node
  | .mk span form => do
    let inner := { scope with isNested := true, declared := [] }
    match form with
    | .declared (.mk span0 (.enumeration isConst name members)) =>
      return .mk span (.declared (.mk span0
        (.enumeration isConst name (← eraseAll scope members))))
    | .declared a => return .mk span (.declared (← eraseKept scope a))
    | .typeAlias name parts => return .mk span (.typeAlias name (← eraseAll scope parts))
    | .interface name parts => return .mk span (.interface name (← eraseAll scope parts))
    | .namespaceBlock keyword name body =>
      return .mk span (.namespaceBlock keyword name (← eraseBody inner body))
    | .ambientBlock name (some body) =>
      return .mk span (.ambientBlock name (some (← eraseBody inner body)))
    | .function place traits name parameters none =>
      return .mk span (.function place traits name (← eraseTargets scope parameters) none)
    | .ambientBlock name none => return .mk span (.ambientBlock name none)
    | .importEquals true isRequire name value =>
      return .mk span (.importEquals true isRequire name value)
    | form => return single (← eraseForm scope span form)

/-- What an expression or a single statement becomes. -/
def eraseOne (scope : Scope) : Node → Step Node
  | .mk span form => do return single (← eraseForm scope span form)

/-- What a node that may be missing becomes. -/
def eraseOption (scope : Scope) : Option Node → Step (Option Node)
  | none => return none
  | some n => do return some (single (← erase scope n))

/-- What nodes one behind the other become. -/
def eraseAll (scope : Scope) : List Node → Step (List Node)
  | [] => return []
  | n :: ns => do return (← erase scope n) ++ (← eraseAll scope ns)

/-- What becomes of a node that is assigned to or bound. A mere name stays as it is. -/
def eraseTarget (scope : Scope) : Node → Step Node
  | .mk span form => do
    match form with
    | .name text => return .mk span (.name text)
    | .parenthesized a => return .mk span (.parenthesized (← eraseTarget scope a))
    | .property key value computed shorthand =>
      let key ← if computed then eraseOne scope key else pure key
      return .mk span (.property key (← eraseTarget scope value) computed shorthand)
    | form => return single (← eraseForm scope span form)

/-- What becomes of nodes that are assigned to or bound. -/
def eraseTargets (scope : Scope) : List Node → Step (List Node)
  | [] => return []
  | n :: ns => do return (← eraseTarget scope n) :: (← eraseTargets scope ns)

/-- What becomes of a parameter that may be missing. -/
def eraseParameter (scope : Scope) : Option Node → Step (Option Node)
  | none => return none
  | some n => do return some (← eraseTarget scope n)

/-- What the body of a statement becomes: an empty block where it was for types. -/
def eraseBranch (scope : Scope) : Node → Step Node
  | .mk span form => do
    if isTypeStatement (.mk span form) then return build (.block [])
    return single (← eraseForm scope span form)

/-- What becomes of a branch that may be missing. -/
def eraseElse (scope : Scope) : Option Node → Step (Option Node)
  | none => return none
  | some n => do if isTypeStatement n then return none else return some (single (← erase scope n))

/-- What the statements of a block become; each knows what those before it declare. -/
def eraseBody (scope : Scope) : List Node → Step (List Node)
  | [] => return []
  | n :: ns => do
    let statements ← erase scope n
    return statements ++
      (← eraseBody { scope with declared := n.declares ++ scope.declared } ns)

/-- The statements that set the members of an enumeration. An initializer may name its own member
and those before it. -/
def eraseMembers (scope : Scope) (enumeration : String) (values : List MemberValue) :
    List Node → Step (List Node)
  | [] => return []
  | .mk span form :: ns => do
    match form with
    | .enumMember name source =>
      let scope := { scope with members := memberNames [(name, none)] enumeration ++ scope.members }
      let source ← eraseOption scope source
      let value : Node :=
        match values.head?, source with
        | some (.constant (.number x)), _ => numberNode x
        | some (.constant (.string points)), _ => textNode points
        | some .computed, some n => n
        | some (.successor before), _ =>
          build (.binary "+" (build (.number ['1']))
            (build (.index (.ofName enumeration) (textNode before) false)))
        | _, source => source.getD default
      let isText := match values.head? with
        | some (.constant (.string _)) => true
        | _ => false
      return memberStatement span enumeration name isText value ::
        (← eraseMembers scope enumeration (values.drop 1) ns)
    | _ => eraseMembers scope enumeration values ns

/-- What a statement of a namespace becomes, which fills its object. -/
def eraseNamespaceItem (scope : Scope) (object : String) : Node → Step (List Node)
  | .mk span form => do
    match form with
    | .exportDeclaration (.mk span0 form0) =>
      match form0 with
      | .variables binder items =>
        if binder != .constKind then fail nonConstantExport
        return exportedVariables object span0 binder (← eraseAll scope items)
      | .namespaceBlock _ name body =>
        namespaceOf scope span0 false (some object) name body fun scope object =>
          eraseNamespace scope object body
      | .ambientBlock (some _) (some _) => fail nestedAmbientModule; return []
      | .importEquals false isRequire name value =>
        return [importAlias span0 isRequire name value, exportStatement object name]
      | form0 =>
        let statements ← eraseForm scope span0 form0
        let names := (Node.mk span0 form0).declares.filter fun d => d.2 == .value
        return statements ++
          if statements.isEmpty then [] else names.map fun d => exportStatement object d.1
    | .namespaceBlock _ name body =>
      namespaceOf scope span false none name body fun scope object =>
        eraseNamespace scope object body
    | .ambientBlock (some _) (some _) => fail nestedAmbientModule; return []
    | .exportNames .. => return []
    | form => eraseForm scope span form

/-- The statements of a namespace, which fill its object. -/
def eraseNamespace (scope : Scope) (object : String) : List Node → Step (List Node)
  | [] => return []
  | n :: ns => do
    let statements ← eraseNamespaceItem scope object n
    return statements ++
      (← eraseNamespace { scope with declared := n.declares ++ scope.declared } object ns)

/-- What a statement of the script becomes. -/
def eraseItem (scope : Scope) : Node → Step (List Node)
  | .mk span form => do
    match form with
    | .importDeclaration isType phase default space named source attributeWord attributes =>
      if isType then return []
      return eraseImport scope.facts span phase default space named source attributeWord attributes
    | .exportNames isType items source =>
      if isType then return []
      let kept := items.filter (keepsExport scope.facts source.isSome)
      if kept.isEmpty && !items.isEmpty then return []
      return [.mk span (.exportNames false kept source)]
    | .exportAll isType .. => return if isType then [] else [.mk span form]
    | .exportGlobal _ => return []
    | .namespaceBlock _ name body =>
      namespaceOf scope span false none name body fun scope object =>
        eraseNamespace scope object body
    | .ambientBlock (some _) (some _) => fail nestedAmbientModule; return []
    | .exportDeclaration (.mk span0 form0) =>
      match form0 with
      | .namespaceBlock _ name body =>
        namespaceOf scope span0 true none name body fun scope object =>
          eraseNamespace scope object body
      | .ambientBlock (some _) (some _) => fail nestedAmbientModule; return []
      | form0 =>
        if isTypeDeclaration (.mk span0 form0) then return []
        eraseForm scope span (.exportDeclaration (.mk span0 form0))
    | .exportDefault (.mk span0 form0) =>
      match form0 with
      | .name text =>
        return if scope.facts.absent.contains text then [] else [.mk span form]
      | form0 =>
        if isTypeDeclaration (.mk span0 form0) then return []
        eraseForm scope span (.exportDefault (.mk span0 form0))
    | form => eraseForm scope span form

/-- What the statements of the script become. -/
def eraseScript (scope : Scope) : List Node → Step (List Node)
  | [] => return []
  | n :: ns => do
    let statements ← eraseItem scope n
    return statements ++
      (← eraseScript { scope with declared := n.declares ++ scope.declared } ns)

end

/-- Statements that make a script a module. -/
def isModuleItem (n : Node) : Bool :=
  match n.form with
  | .importDeclaration .. | .exportNames .. | .exportDeclaration _ | .exportDefault _
  | .exportAll .. | .exportGlobal _ => true
  | _ => false

/-- An exported declaration that other statements replace. -/
def isReplaced (n : Node) : Bool :=
  match n.form with
  | .exportDeclaration (.mk _ (.enumeration ..))
  | .exportDeclaration (.mk _ (.namespaceBlock ..)) => true
  | _ => false

/-- What is known of a script before its types go. -/
def Facts.of (body types : List Node) : Facts :=
  let declared := body.flatMap Node.declares
  let named (counts : Meaning → Bool) : List String :=
    (declared.filter fun d => counts d.2).map Prod.fst
  let present := named fun m => m == .value || m == .imported
  let (aliases, uses) := Names.aliasesIn body (body.map Names.of)
  let values := named fun m => m == .value || m == .ambient
  let absent := (named fun m => m == .ambient || m == .type).filter fun name =>
    !present.contains name
  ⟨uses ++ types.flatMap fun n => (Names.of n).uses, values, absent, aliases⟩

end Erasure

open Erasure in
/-- The statements of a script without its types, or why there are none. -/
def Program.erase (program : Program) : Except String (List Node) :=
  let body := program.body
  let scope : Scope := ⟨Facts.of body program.types, false, [], []⟩
  let taken := (body ++ program.types).flatMap allNames
  let (kept, state) := (eraseScript scope body).run ⟨taken, [], none⟩
  match state.failure with
  | some cause => .error cause
  | none =>
    let isModule := body.any fun n => isModuleItem n && !isReplaced n
    if isModule && !kept.any isModuleItem then
      .ok (kept ++ [build (.exportNames false [] none)])
    else .ok kept

end LivePreview.Script
