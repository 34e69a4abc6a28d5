import LivePreview.Script.Node
import LivePreview.Script.Printer.Basic

/-!
# Printing scripts

One statement a line, indented by tabs. Parentheses stand where the tree would not be read back
without them: an expression is printed at a level, the least it has to exceed to stand bare.
Comments in front of statements, members and arguments are kept.
-/

namespace LivePreview.Script

/-- What stands inside parentheses. -/
def Node.unwrapped : Node → Node
  | .mk _ (.parenthesized inner) => inner.unwrapped
  | n => n

/-! ## Levels -/

namespace Level

/-- Any expression stands bare. -/
def lowest : Nat := 0

/-- Behind a comma. -/
def comma : Nat := 1

/-- The operand of `yield`. -/
def yielded : Nat := 3

/-- An assignment. -/
def assign : Nat := 4

/-- The test of a conditional. -/
def conditional : Nat := 5

/-- The operand of a sign. -/
def exponent : Nat := 17

/-- A sign and its operand. -/
def sign : Nat := 18

/-- An operand with something behind it. -/
def postfixed : Nat := 19

/-- What is constructed. -/
def constructed : Nat := 20

/-- What is called. -/
def called : Nat := 21

/-- The level of an operator between two operands. -/
def ofOperator (operator : String) : Nat :=
  match operator with
  | "??" => 6
  | "||" => 7
  | "&&" => 8
  | "|" => 9
  | "^" => 10
  | "&" => 11
  | "==" | "!=" | "===" | "!==" => 12
  | "<" | ">" | "<=" | ">=" | "in" | "instanceof" => 13
  | "<<" | ">>" | ">>>" => 14
  | "+" | "-" => 15
  | "*" | "/" | "%" => 16
  | _ => exponent

/-- The level of an operand. `??` does not mix with `||` and `&&`, which all may be regrouped; the
first operand of `**` has no sign; a test for a private name in front of an operator stands bare. -/
def ofOperand (operator : String) (isLeft : Bool) (operand : Node) : Nat :=
  match operator, operand.unwrapped.form with
  | "??", .binary "||" .. | "??", .binary "&&" .. => sign
  | "**", .unary .. => if isLeft then called else exponent - 1
  | operator, .binary "in" (.mk _ (.privateName _)) _ =>
    if isLeft then lowest else ofOperator operator
  | "**", _ => if isLeft then exponent else exponent - 1
  | "||", _ | "&&", _ | "??", _ => ofOperator operator - 1
  | operator, _ => if isLeft then ofOperator operator - 1 else ofOperator operator

end Level

/-- What must not stand bare inside the expression that is printed. -/
structure Surrounding where
  /-- An `in` would be read as that of a loop. -/
  noIn : Bool
  /-- A call would be read as that of what is constructed. -/
  noCall : Bool

namespace Surrounding

/-- Nothing is barred. -/
def plain : Surrounding := ⟨false, false⟩

/-- What is barred in parentheses. -/
def inside (s : Surrounding) (wraps : Bool) : Surrounding := { s with noIn := s.noIn && !wraps }

end Surrounding

/-- The name `let`, which would start a declaration in front of a bracket. -/
def Node.isLet (n : Node) : Bool :=
  match n.unwrapped.form with
  | .name "let" => true
  | _ => false

/-- A string, in parentheses or not. -/
def isString (n : Node) : Bool :=
  match n.unwrapped.form with
  | .string _ => true
  | _ => false

/-- The value of a property repeats its key. A property that sets the prototype counts only if it is
written short. -/
def isShorthand (key value : Node) (computed written : Bool) : Bool :=
  !computed &&
    match key.form, value.unwrapped.form with
    | .name k, .name v => if k == "__proto__" then written else k == v
    | _, _ => false

/-- The name that a binding binds is its key. -/
def bindsKey (key value : Node) (computed : Bool) : Bool :=
  !computed &&
    match key.form, value.form with
    | .name k, .name v | .name k, .withDefault (.mk _ (.name v)) _ => k == v
    | _, _ => false

/-- A number that is too great. -/
def isInfinite (n : Node) : Bool :=
  match n.form with
  | .number source => Numeral.value source == .infinite
  | _ => false

/-- The code points of a name or a string. -/
def namePoints (n : Node) : List Nat :=
  match n.form with
  | .name text => text.toList.map Char.toNat
  | .string points => points
  | _ => []

/-- An expression that a decorator may be without parentheses. -/
def isPlainDecorator : Node → Bool
  | .mk _ (.name _) | .mk _ (.member ..) | .mk _ (.privateMember ..) => true
  | .mk _ (.call callee ..) => isPlainDecorator callee
  | _ => false

/-- A declared function whose calls have no effect, exported or not. -/
def isEffectlessDeclaration : Form → Bool
  | .function .declaration traits .. => traits.isEffectless
  | .exportDeclaration (.mk _ (.function .declaration traits ..)) => traits.isEffectless
  | .exportDefault (.mk _ (.function .declaration traits ..)) => traits.isEffectless
  | _ => false

/-- An exported declaration. -/
def isExport : Form → Bool
  | .exportDeclaration _ | .exportDefault _ => true
  | _ => false

/-- A statement that ends in an `if` without `else`, which would take the `else` behind it. -/
def takesElse : Node → Bool
  | .mk _ (.ifElse _ _ none) => true
  | .mk _ (.ifElse _ _ (some n)) => takesElse n
  | .mk _ (.whileLoop _ n) | .mk _ (.forLoop _ _ _ n) | .mk _ (.forInLoop _ _ n)
  | .mk _ (.forOfLoop _ _ _ n) | .mk _ (.withObject _ n) | .mk _ (.labelled _ n) => takesElse n
  | _ => false

namespace Print

/-- The word of a declaration. -/
def binderWord : Binder → String
  | .varKind => "var"
  | .letKind => "let"
  | .constKind => "const"
  | .usingKind => "using"
  | .awaitUsingKind => "await using"

/-- A directive: its source in double quotes, or in single ones if it holds a double one. -/
def putDirective (source : String) : Print Unit :=
  let quote := if holdsQuote source.toList then "'" else "\""
  do
    put quote
    put source
    put quote
where
  /-- A double quote that is not escaped. -/
  holdsQuote : List Char → Bool
    | '\\' :: _ :: rest => holdsQuote rest
    | c :: rest => c == '"' || holdsQuote rest
    | [] => false

/-- Statements in braces, or nothing in them. -/
def inBraces (isEmpty : Bool) (body : Print Unit) : Print Unit := do
  put "\x7b"
  if !isEmpty then
    newline
    deeper body
    indent
  put "\x7d"

/-- The attributes of a source behind their word, if it is there. -/
def attributesOf (word : Option String) (isEmpty : Bool) (attributes : Print Unit) :
    Print Unit := do
  if let some word := word then
    put (" " ++ word ++ " \x7b")
    if !isEmpty then
      put " "
      attributes
      put " "
    put "\x7d"

/-- Says that a call has no effect but its value. -/
def pureMark : String := "/* @__PURE__ */ "

/-- Says that the calls of a function have no effect but their value. -/
def effectlessMark : String := "/* @__NO_SIDE_EFFECTS__ */"

/-- A comment stands in front of an argument of a call that ends at `stop`, or behind the last. -/
def hasArgumentComment (stop : Nat) (args : List Node) : Print Bool := do
  let closing ← if stop == 0 then pure false else hasComment (stop - 1)
  let before ← args.anyM fun n => if n.stop == 0 then pure false else hasComment n.start
  return closing || before

/-- The arguments of a call that ends at `stop`; where comments stand in front of them or behind
the last one, they are written `commented`, and otherwise `plain`. -/
def arguments (stop : Nat) (args : List Node) (plain commented : Print Unit) : Print Unit := do
  put "("
  if ← hasArgumentComment stop args then
    deeper do
      commented
      if !(← argumentComments (stop - 1)) then newline
    indent
  else plain
  put ")"

/-- The word of a statement that jumps, and where it jumps to. -/
def putJump (word : String) (label : Option String) : Print Unit :=
  put (word ++ (label.map (" " ++ ·)).getD "")

/-- What stands in front of a statement. -/
def beginStatement (span : Span) (form : Form) : Print Unit :=
  do
    commentsAt span.start
    if isEffectlessDeclaration form then
      if !isExport form then indent
      put effectlessMark
      newline
    indent

/-- What ends a statement: a semicolon, or nothing behind a brace. A statement with a body ends
with it. -/
def finishStatement : Form → Print Unit
  | .ifElse .. | .whileLoop .. | .forLoop .. | .forInLoop .. | .forOfLoop .. | .labelled ..
  | .withObject .. | .exportDefault (.mk _ (.interface ..)) => return
  | .block _ | .function .. | .classForm .. | .tryBlock .. | .switchOn .. | .interface ..
  | .enumeration .. | .namespaceBlock .. | .ambientBlock .. => newline
  | .declared (.mk _ form) | .exportDeclaration (.mk _ form) => finishStatement form
  | .exportDefault (.mk _ (.function .declaration ..))
  | .exportDefault (.mk _ (.classForm true ..)) => newline
  | _ => endStatement

/-- The words in front of a method's name that its function asks for. -/
def methodWords : Node → Print Unit
  | .mk _ (.function _ traits ..) => do
    if traits.isAsync then put "async "
    if traits.isGenerator then put "*"
  | _ => return

/-- The body of a namespace that covers some bytes is the next part of its dotted name. -/
def isDotted (span : Span) (body : List Node) : Bool :=
  match body with
  | [.mk inner (.exportDeclaration (.mk _ (.namespaceBlock ..)))] => inner == span
  | _ => false

/-- An `if` statement. -/
def isConditional : Form → Bool
  | .ifElse .. => true
  | _ => false

mutual

/-- A node at a level. -/
def node (level : Nat) (around : Surrounding) : Node → Print Unit
  | .mk span form => formAt level around span form

/-- A form at a level; a statement is written without its indent and its end. -/
def formAt (level : Nat) (around : Surrounding) (span : Span) (form : Form) : Print Unit := do
  match form with
  | .name text | .constant text => word text
  | .privateName text => put ("#" ++ text)
  | .number source => putNumber source
  | .bigint source => word (String.ofList (Numeral.renderBigint source))
  | .string points => putString points
  | .regularExpression source => putPattern source
  | .template parts values =>
    put "`"
    templateParts parts values
    put "`"
  | .tagged tag quasi =>
    node Level.postfixed .plain tag
    node Level.lowest .plain quasi
  | .array elements =>
    let isLong := elements.length > 2
    put "["
    if isLong then deeper (lines .plain true elements)
    else items Level.comma .plain true elements
    if let some (.mk _ .hole) := elements.getLast? then put ","
    if isLong then
      newline
      indent
    put "]"
  | .hole => return
  | .object members =>
    let n ← size
    let p ← get
    let commented ← hasComment span.start
    wrap (commented || p.statementStart == some n || p.arrowStart == some n) do
      if commented then
        commentsAt span.start
        indent
      put "\x7b"
      if members.length > 1 then
        deeper (lines around true members)
        newline
        indent
      else if members.length == 1 then
        put " "
        items Level.comma around true members
        put " "
      put "\x7d"
  | .property key value computed shorthand =>
    if !isShorthand key value computed shorthand then
      propertyKey (computed || isInfinite key) key
      put ": "
    node Level.comma .plain value
  | .function place traits name parameters body =>
    let n ← size
    let p ← get
    let isExpression := place == .expression || place == .parenthesized
    let starts := p.statementStart == some n || p.defaultStart == some n
    let inside : Surrounding := { around with noCall := false }
    wrap (isExpression && (starts || place == .parenthesized)) do
      if isExpression && traits.isEffectless then put (effectlessMark ++ " ")
      if traits.isAsync then word "async "
      word "function"
      if traits.isGenerator then put "* "
      optional Level.lowest .plain name
      put "("
      parametersOf inside true parameters
      put ")"
      match body with
      | some body =>
        put " "
        node Level.lowest inside body
      | none => put ";"
  | .functionBody body =>
    let comments ← takeComments (span.stop - 1)
    let isOpen := !body.isEmpty ||
      comments.any fun c => !c.isBlock || c.afterLineEnd || c.beforeLineEnd
    put "\x7b"
    if isOpen then newline
    (if isOpen then deeper else id) do
      bodyStatements around body
      trailingComments comments
    if isOpen then indent
    put "\x7d"
  | .arrow traits isParenthesized parameters body =>
    wrap (level ≥ Level.assign || isParenthesized) do
      if traits.isEffectless then put (effectlessMark ++ " ")
      if traits.isAsync then word "async "
      put "("
      parametersOf around true parameters
      put ") => "
      modify fun p => { p with arrowStart := some p.size }
      node Level.comma around body
  | .classForm isDeclaration decorators name superclass members =>
    let n ← size
    let p ← get
    let starts := p.statementStart == some n || p.defaultStart == some n
    wrap (!isDeclaration && starts) do
      decoratorsOf decorators
      word "class"
      if name.isSome then put " "
      optional Level.lowest .plain name
      if superclass.isSome then put " extends "
      optional Level.postfixed .plain superclass
      put " \x7b"
      if !members.isEmpty then
        newline
        deeper (classMembers { around with noCall := false } members)
        indent
      put "\x7d"
  | .unary operator operand =>
    wrap (level ≥ Level.sign) do
      if operator.toList.any Char.isAlpha then
        word operator
        put " "
      else
        spaceBeforeSign operator
        putSign operator
      -- A script may not delete a name.
      let deletesName := operator == "delete" && isInfinite operand
      if deletesName then put "(0, "
      node Level.exponent (around.inside (level ≥ Level.sign)) operand
      if deletesName then put ")"
  | .update operator isPrefixed operand =>
    wrap (level ≥ if isPrefixed then Level.sign else Level.postfixed) do
      spaceBeforeSign operator
      if isPrefixed then
        putSign operator
        node Level.sign around operand
      else
        node Level.postfixed around operand
        putSign operator
  | .binary "in" (.mk _ (.privateName text)) right =>
    wrap (level ≥ Level.ofOperator "in") do
      put ("#" ++ text ++ " in ")
      node (Level.ofOperator "==") ⟨true, false⟩ right
  | .binary operator left right =>
    let wraps := level ≥ Level.ofOperator operator || (operator == "in" && around.noIn)
    let around := around.inside wraps
    wrap wraps do
      node (Level.ofOperand operator true left) around left
      put (" " ++ operator ++ " ")
      node (Level.ofOperand operator false right) around right
  | .assign operator target value =>
    let n ← size
    let p ← get
    let isObject := match target with
      | .mk _ (.objectPattern ..) => true
      | _ => false
    let starts := isObject && (p.statementStart == some n || p.arrowStart == some n)
    let wraps := starts || level ≥ Level.assign
    wrap wraps do
      node Level.lowest around target
      put (" " ++ operator ++ " ")
      node Level.comma (around.inside wraps) value
  | .conditional test whenTrue whenFalse =>
    let wraps := level ≥ Level.conditional
    let around : Surrounding := { around.inside wraps with noCall := false }
    wrap wraps do
      node Level.conditional around test
      put " ? "
      node Level.yielded .plain whenTrue
      put " : "
      node Level.yielded around whenFalse
  | .call callee args isOptional isPure =>
    let n ← size
    let p ← get
    wrap (level ≥ Level.constructed || around.noCall || (isPure && level ≥ Level.postfixed)) do
      if isPure then put pureMark
      let m ← size
      if p.defaultStart == some n then modify fun p => { p with defaultStart := some m }
      else if p.statementStart == some n then modify fun p => { p with statementStart := some m }
      node Level.postfixed .plain callee
      if isOptional then put "?."
      arguments span.stop args (items Level.comma .plain true args)
        (commentedArguments true args)
  | .newCall callee args isPure =>
    wrap (level ≥ Level.called || (isPure && level ≥ Level.postfixed)) do
      if isPure then put pureMark
      word "new "
      node Level.constructed ⟨false, true⟩ callee
      arguments span.stop args (items Level.comma .plain true args)
        (commentedArguments true args)
  | .member object name isOptional =>
    node Level.postfixed ⟨false, around.noCall⟩ object
    if isOptional then put "?." else putPoint
    put name
  | .privateMember object name isOptional =>
    node Level.postfixed ⟨false, around.noCall⟩ object
    put (if isOptional then "?." else ".")
    put ("#" ++ name)
  | .index object key isOptional =>
    wrap object.isLet (node Level.postfixed ⟨false, around.noCall⟩ object)
    if isOptional then put "?."
    put "["
    node Level.lowest .plain key
    put "]"
  | .chain inner => wrap (level ≥ Level.postfixed) (node Level.lowest around inner)
  | .importCall phase args =>
    wrap (level ≥ Level.constructed || around.noCall) do
      word "import"
      if phase != "" then put ("." ++ phase)
      put "("
      let commented ← hasArgumentComment span.stop args
      if commented then
        deeper do
          importArguments true args
          if !(← argumentComments (span.stop - 1)) then newline
      else items Level.comma .plain true args
      put ")"
  | .metaProperty whole part =>
    word whole
    put ("." ++ part)
  | .sequence parts =>
    wrap (level ≥ Level.comma) do
      items Level.lowest ⟨around.noIn, false⟩ true parts
  | .parenthesized inner | .typed inner | .instantiated inner _ => node level around inner
  | .yieldTo isDelegate operand =>
    wrap (level ≥ Level.assign) do
      word "yield"
      if isDelegate then put "*"
      if operand.isSome then put " "
      optional Level.yielded .plain operand
  | .awaitFor operand =>
    wrap (level ≥ Level.sign) do
      word "await "
      node Level.exponent around operand
  | .spread operand | .rest operand =>
    put "..."
    node Level.comma .plain operand
  | .arrayPattern isBinding elements rest =>
    put "["
    items Level.comma .plain true elements
    match elements.getLast?, rest with
    | some _, some _ => put ", "
    | some (.mk _ .hole), none => put ","
    | none, some _ => if isBinding then put " "
    | _, _ => pure ()
    optional Level.comma .plain rest
    put "]"
  | .objectPattern isBinding members rest =>
    let isSpaced := isBinding && !(members.isEmpty && rest.isNone)
    put "\x7b"
    if isSpaced then put " "
    patternMembers isBinding true members
    if !members.isEmpty && rest.isSome then put ", "
    optional Level.comma .plain rest
    if isSpaced then put " "
    put "\x7d"
  | .withDefault target value =>
    node Level.lowest .plain target
    put " = "
    node Level.comma .plain value
  | .parameter decorators _ pattern =>
    decoratorsOf decorators
    node Level.lowest .plain pattern
  | .method decorators kind isStatic computed key function =>
    decoratorsOf decorators
    if isStatic then put "static "
    if kind == .getter then put "get "
    if kind == .setter then put "set "
    methodWords function
    propertyKey computed key
    methodRest around function
  | .field decorators words computed key value =>
    decoratorsOf decorators
    put (String.join (words.map (· ++ " ")))
    propertyKey computed key
    if value.isSome then put " = "
    optional Level.comma .plain value
  | .staticBlock body =>
    put "static "
    inBraces body.isEmpty (statements around body)
  | .variables binder declarators =>
    word (binderWord binder)
    if !declarators.isEmpty then put " "
    items Level.comma around true declarators
  | .variable pattern value =>
    node Level.lowest .plain pattern
    if value.isSome then put " = "
    optional Level.comma around value
  | .exportSpecifier inner outer isType =>
    if isType then put "type "
    commentsBeforeName inner.start
    node Level.lowest .plain inner
    if namePoints inner != namePoints outer then
      put " as "
      commentsBeforeName outer.start
      node Level.lowest .plain outer
  | .importSpecifier imported localName isType =>
    if isType then put "type "
    node Level.lowest .plain imported
    if namePoints imported != localName.toList.map Char.toNat then put (" as " ++ localName)
  | .block body => inBraces body.isEmpty (statements around body)
  | .directive source => putDirective source
  | .expression inner =>
    modify fun p => { p with statementStart := some p.size }
    node Level.lowest .plain inner
  | .ifElse test whenTrue whenFalse =>
    put "if ("
    node Level.lowest .plain test
    put ")"
    branch around whenFalse.isSome whenTrue
    otherwise around whenFalse
  | .whileLoop test body =>
    put "while ("
    node Level.lowest .plain test
    put ")"
    bodyOf around body
  | .doLoop body test =>
    put "do"
    loopBody around body
    put "while ("
    node Level.lowest .plain test
    put ")"
  | .forLoop start test step body =>
    put "for ("
    optional Level.lowest ⟨true, false⟩ start
    put ";"
    if test.isSome then put " "
    optional Level.lowest .plain test
    put ";"
    if step.isSome then put " "
    optional Level.lowest .plain step
    put ")"
    bodyOf around body
  | .forInLoop target collection body =>
    put "for ("
    node Level.lowest ⟨true, false⟩ target
    put " in "
    node Level.lowest .plain collection
    put ")"
    bodyOf around body
  | .forOfLoop isAwait target collection body =>
    put (if isAwait then "for await (" else "for (")
    let isAsync := match target with
      | .mk _ (.name "async") => true
      | _ => false
    wrap isAsync (node Level.lowest ⟨true, false⟩ target)
    put " of "
    node Level.comma .plain collection
    put ")"
    bodyOf around body
  | .returnWith value =>
    put (if value.isSome then "return " else "return")
    optional Level.lowest .plain value
  | .throwValue value =>
    put "throw "
    node Level.lowest .plain value
  | .breakTo label => putJump "break" label
  | .continueTo label => putJump "continue" label
  | .tryBlock block handler finalizer =>
    put "try "
    node Level.lowest around block
    if handler.isSome then put " "
    optional Level.lowest around handler
    if finalizer.isSome then put " finally "
    optional Level.lowest around finalizer
  | .catchClause parameter body =>
    commentsAt span.start
    put "catch "
    if parameter.isSome then put "("
    optional Level.lowest .plain parameter
    if parameter.isSome then put ") "
    node Level.lowest around body
  | .switchOn subject cases =>
    put "switch ("
    node Level.lowest .plain subject
    put ") "
    inBraces cases.isEmpty (casesOf around cases)
  | .labelled label body =>
    put (label ++ ":")
    bodyOf around body
  | .withObject object body =>
    put "with ("
    node Level.lowest .plain object
    put ")"
    bodyOf around body
  | .debugger => put "debugger"
  | .importDeclaration isType phase default space named source attributeWord attributes =>
    put (if isType then "import type " else "import ")
    if phase != "" then put (phase ++ " ")
    optional Level.lowest .plain default
    if default.isSome && (space.isSome || named.isSome) then put ", "
    if space.isSome then put "* as "
    optional Level.lowest .plain space
    specifiersOf named
    if default.isSome || space.isSome || named.isSome then put " from "
    node Level.lowest .plain source
    attributesOf attributeWord attributes.isEmpty (items Level.comma .plain true attributes)
  | .exportNames isType specifiers source =>
    put (if isType then "export type \x7b" else "export \x7b")
    if !specifiers.isEmpty then put " "
    items Level.lowest .plain true specifiers
    if !specifiers.isEmpty then put " "
    put "\x7d"
    if source.isSome then put " from "
    optional Level.lowest .plain source
  | .exportAll isType space source attributeWord attributes =>
    put (if isType then "export type *" else "export *")
    if space.isSome then put " as "
    optional Level.lowest .plain space
    put " from "
    node Level.lowest .plain source
    attributesOf attributeWord attributes.isEmpty (items Level.comma .plain true attributes)
  | .exportDeclaration declaration =>
    put "export "
    node Level.lowest around declaration
  | .exportDefault inner =>
    put "export default "
    modify fun p => { p with defaultStart := some p.size }
    node Level.comma .plain inner
  | .exportGlobal name => put ("export as namespace " ++ name)
  | .importEquals isType _ name value =>
    put (if isType then "import type " else "import ")
    put (name ++ " = ")
    node Level.lowest .plain value
  | .type _ parts => row parts
  | .text text | .typeName text => put text
  | .typeList types =>
    put "<"
    if types.length > 1 then
      deeper (lines .plain true types)
      newline
      indent
    else items Level.lowest .plain true types
    put ">"
  | .typeMembers isBody members =>
    if isBody || members.length > 1 then inBraces members.isEmpty (memberLines ";" members)
    else
      put "\x7b"
      if !members.isEmpty then put " "
      items Level.lowest .plain true members
      if !members.isEmpty then put " "
      put "\x7d"
  | .parameterList parameters =>
    put "("
    parametersOf .plain true parameters
    put ")"
  | .typeAlias name parts =>
    put ("type " ++ name)
    row parts
  | .interface name parts =>
    put ("interface " ++ name)
    row parts
  | .declared declaration =>
    put "declare "
    node Level.lowest around declaration
  | .enumeration isConst name members =>
    put ((if isConst then "const enum " else "enum ") ++ name ++ " ")
    inBraces members.isEmpty (memberLines "," members)
  | .enumMember name value =>
    let text := name.map Char.ofNat
    if text.head?.any Text.isNameStart && text.all Text.isNamePart then put (String.ofList text)
    else putString name
    if value.isSome then put " = "
    optional Level.lowest .plain value
  | .namespaceBlock keyword name body =>
    put (keyword ++ " " ++ name)
    if isDotted span body then dottedRest around span body
    else
      put " "
      inBraces body.isEmpty (statements around body)
  | .ambientBlock name body =>
    match name with
    | some points =>
      put "module "
      putString points
    | none => put "global"
    match body with
    | some body =>
      put " "
      inBraces body.isEmpty (statements around body)
    | none => put ";"
  | .empty | .typeMember _ | .switchCase .. | .exportEquals _ => return

/-- A node that may be missing. -/
def optional (level : Nat) (around : Surrounding) : Option Node → Print Unit
  | none => return
  | some n => node level around n

/-- Nodes with commas between them. -/
def items (level : Nat) (around : Surrounding) (isFirst : Bool) : List Node → Print Unit
  | [] => return
  | n :: ns => do
    if !isFirst then put ", "
    node level around n
    items level around false ns

/-- Nodes one behind the other. -/
def row : List Node → Print Unit
  | [] => return
  | n :: ns => do
    node Level.comma .plain n
    row ns

/-- The names behind the points of a dotted name, and the statements of the last namespace. -/
def dottedRest (around : Surrounding) (span : Span) : List Node → Print Unit
  | .mk _ (.exportDeclaration (.mk _ (.namespaceBlock _ name body))) :: _ => do
    put ("." ++ name)
    if isDotted span body then dottedRest around span body
    else
      put " "
      inBraces body.isEmpty (statements around body)
  | _ => return

/-- Members on a line each, with a mark behind each. -/
def memberLines (mark : String) : List Node → Print Unit
  | [] => return
  | .mk span form :: ns => do
    commentsAt span.start
    indent
    formAt Level.lowest .plain span form
    put mark
    newline
    memberLines mark ns

/-- Nodes with commas between them, each on a line of its own. -/
def lines (around : Surrounding) (isFirst : Bool) : List Node → Print Unit
  | [] => return
  | n :: ns => do
    if !isFirst then put ","
    newline
    indent
    node Level.comma around n
    lines around false ns

/-- The parts of a template and the values between them. -/
def templateParts : List String → List Node → Print Unit
  | part :: parts, n :: ns => do
    put (String.ofList (breakEndTag part.toList))
    put "$\x7b"
    node Level.lowest .plain n
    put "\x7d"
    templateParts parts ns
  | parts, _ => put (String.ofList (breakEndTag (String.join parts).toList))

/-- Arguments on lines of their own, with the comments in front of them. -/
def commentedArguments (isFirst : Bool) : List Node → Print Unit
  | [] => return
  | .mk span form :: ns => do
    if !isFirst then put ","
    let commented ← argumentComments span.start
    if !commented then newline
    indent
    formAt Level.comma .plain span form
    commentedArguments false ns

/-- The arguments of an import on lines of their own, with the comments in front of the first. -/
def importArguments (isFirst : Bool) : List Node → Print Unit
  | [] => return
  | .mk span form :: ns => do
    let commented ← if isFirst then argumentComments span.start else do put ","; pure false
    if !commented then newline
    indent
    formAt Level.comma .plain span form
    importArguments false ns

/-- The key of a property; one that is computed stands in brackets. -/
def propertyKey (computed : Bool) : Node → Print Unit
  | .mk span form => do
    if computed then put "["
    formAt Level.comma .plain span form
    if computed then put "]"

/-- The properties of an object's pattern. Where names are bound, a name that is its key stands for
both. -/
def patternMembers (isBinding isFirst : Bool) : List Node → Print Unit
  | [] => return
  | .mk span form :: ns => do
    if !isFirst then put ", "
    match form with
    | .property key value computed written =>
      if !(if isBinding then bindsKey key value computed else written) then
        propertyKey computed key
        put ": "
      node Level.comma .plain value
    | form => formAt Level.comma .plain span form
    patternMembers isBinding false ns

/-- Parameters; what is barred around the function is barred in their defaults. -/
def parametersOf (around : Surrounding) (isFirst : Bool) : List Node → Print Unit
  | [] => return
  | .mk span form :: ns => do
    if !isFirst then put ", "
    match form with
    | .withDefault target value =>
      node Level.lowest .plain target
      put " = "
      node Level.comma around value
    | .parameter decorators _ (.mk _ (.withDefault target value)) =>
      decoratorsOf decorators
      node Level.lowest .plain target
      put " = "
      node Level.comma around value
    | form => formAt Level.comma .plain span form
    parametersOf around false ns

/-- The parameters and the body of a method. -/
def methodRest (around : Surrounding) : Node → Print Unit
  | .mk _ (.function _ _ _ parameters body) => do
    put "("
    parametersOf around true parameters
    put ")"
    if body.isSome then put " "
    optional Level.lowest around body
  | _ => return

/-- Decorators, each with a space behind it. -/
def decoratorsOf : List Node → Print Unit
  | [] => return
  | n :: ns => do
    put "@"
    wrap (!isPlainDecorator n) (node Level.lowest .plain n)
    put " "
    decoratorsOf ns

/-- The members of a class, a line each. -/
def classMembers (around : Surrounding) : List Node → Print Unit
  | [] => return
  | .mk span form :: ns => do
    commentsAt span.start
    indent
    formAt Level.lowest around span form
    match form with
    | .field .. => endStatement
    | _ => newline
    classMembers around ns

/-- Statements one behind the other. -/
def statements (around : Surrounding) : List Node → Print Unit
  | [] => return
  | .mk span form :: ns => do
    beginStatement span form
    formAt Level.lowest around span form
    finishStatement form
    statements around ns

/-- The statements of a body. A string that is no directive and comes first is put in parentheses,
so that it is not read as one. -/
def bodyStatements (around : Surrounding) : List Node → Print Unit
  | [] => return
  | .mk span form :: ns => do
    let startsWithString := match form with
      | .expression inner => isString inner
      | _ => false
    if !startsWithString then beginStatement span form
    wrap startsWithString (formAt Level.lowest around span form)
    finishStatement form
    statements around ns

/-- The body of a statement: a block goes on behind a space, other statements behind what was
written. -/
def bodyOf (around : Surrounding) : Node → Print Unit
  | .mk span form => do
    match form with
    | .block _ =>
      put " "
      formAt Level.lowest around span form
      newline
    | .empty => endStatement
    | _ =>
      continueLine
      beginStatement span form
      formAt Level.lowest around span form
      finishStatement form

/-- The body of a loop that ends with its test. -/
def loopBody (around : Surrounding) : Node → Print Unit
  | .mk span form => do
    match form with
    | .block _ =>
      put " "
      formAt Level.lowest around span form
      put " "
    | _ =>
      newline
      deeper do
        beginStatement span form
        formAt Level.lowest around span form
        finishStatement form
      indent

/-- What runs if a test holds. -/
def branch (around : Surrounding) (hasElse : Bool) : Node → Print Unit
  | .mk span form => do
    let inBlock := match form with
      | .block _ => true
      | _ => false
    if inBlock || takesElse (.mk span form) then
      put " "
      if inBlock then formAt Level.lowest around span form
      else
        inBraces false do
          beginStatement span form
          formAt Level.lowest around span form
          finishStatement form
      if hasElse then put " " else newline
    else
      match form with
      | .empty => endStatement
      | _ =>
        continueLine
        beginStatement span form
        formAt Level.lowest around span form
        finishStatement form
      if hasElse then indent

/-- What runs if a test does not hold. -/
def otherwise (around : Surrounding) : Option Node → Print Unit
  | none => return
  | some n => do
    if isConditional n.form then
      put "else "
      node Level.lowest around n
    else
      put "else"
      bodyOf around n

/-- The cases of a `switch`. -/
def casesOf (around : Surrounding) : List Node → Print Unit
  | [] => return
  | .mk _ form :: ns => do
    match form with
    | .switchCase test body =>
      indent
      put (if test.isSome then "case " else "default")
      optional Level.lowest .plain test
      put ":"
      caseBody around body
    | _ => pure ()
    casesOf around ns

/-- The statements of a case: a single one stands on its line. -/
def caseBody (around : Surrounding) : List Node → Print Unit
  | [] => newline
  | n :: ns => do
    match ns with
    | [] => bodyOf around n
    | ns =>
      newline
      deeper do
        statement around n
        statements around ns

/-- A statement. -/
def statement (around : Surrounding) : Node → Print Unit
  | .mk span form => do
    beginStatement span form
    formAt Level.lowest around span form
    finishStatement form

/-- The names of an import in braces. -/
def specifiersOf : Option (List Node) → Print Unit
  | none => return
  | some specifiers => do
    put "\x7b "
    items Level.lowest .plain true specifiers
    put " \x7d"

end

end Print

open Print in
/-- The text of a script. -/
def Program.print (program : Program) (body : List Node) : String :=
  let whole : Print Unit := do
    commentsAt 0
    if let some line := program.hashbang then
      put line
      newline
    bodyStatements .plain body
    commentsAt program.stop
  (whole.run (blank program.comments)).2.text

end LivePreview.Script
