import LivePreview.Script.Token

/-!
# The tree of a script

A node is a form and the bytes it covers. Expressions, patterns, members, statements and types share
one type, since the grammar reads some of them before it knows which they are: an array in front of
`=` turns out to be a pattern. A type is kept as its parts in a row, some of which are mere text.
Types that are put to values stand beside the tree, since they change no value.
-/

namespace LivePreview.Script

/-- The keyword of a variable declaration. -/
inductive Binder where
  | varKind
  | letKind
  | constKind
  | usingKind
  | awaitUsingKind
deriving DecidableEq, Repr

/-- What a member of a class or of an object is. -/
inductive MemberKind where
  | method
  | getter
  | setter
  | construct
deriving DecidableEq, Repr

/-- Where a function stands. -/
inductive FunctionPlace where
  | declaration
  | expression
  /-- An expression that stood in parentheses of its own. -/
  | parenthesized
  | member
deriving DecidableEq, Repr

/-- What a type looks like to the types around it. -/
inductive TypeShape where
  | array
  | tuple
  /-- A question mark stands behind the type. -/
  | optional
  | other
deriving DecidableEq, Repr

/-- What sets a function apart from a plain one. -/
structure FunctionTraits where
  isAsync : Bool
  isGenerator : Bool
  /-- Calling the function has no effect but its value. -/
  isEffectless : Bool
deriving DecidableEq, Repr

namespace FunctionTraits

/-- A plain function. -/
def plain : FunctionTraits := ⟨false, false, false⟩

/-- A function without an annotation. -/
def of (isAsync isGenerator : Bool) : FunctionTraits := ⟨isAsync, isGenerator, false⟩

end FunctionTraits

mutual

/-- A form and the bytes it covers. -/
inductive Node where
  | mk (span : Span) (form : Form)

/-- What a node is. -/
inductive Form where
  -- Expressions
  | name (text : String)
  /-- `this`, `super`, `null`, `true` or `false`. -/
  | constant (text : String)
  | number (source : List Char)
  | bigint (source : List Char)
  | string (points : List Nat)
  | regularExpression (source : String)
  | template (parts : List String) (values : List Node)
  | tagged (tag quasi : Node)
  | array (elements : List Node)
  /-- A place of an array that holds nothing. -/
  | hole
  | object (members : List Node)
  | property (key value : Node) (computed shorthand : Bool)
  | function (place : FunctionPlace) (traits : FunctionTraits) (name : Option Node)
      (parameters : List Node) (body : Option Node)
  | arrow (traits : FunctionTraits) (parenthesized : Bool) (parameters : List Node) (body : Node)
  | classForm (isDeclaration : Bool) (decorators : List Node) (name superclass : Option Node)
      (members : List Node)
  | unary (operator : String) (operand : Node)
  | update (operator : String) (isPrefixed : Bool) (operand : Node)
  | binary (operator : String) (left right : Node)
  | assign (operator : String) (target value : Node)
  | conditional (test whenTrue whenFalse : Node)
  /-- A call; `isPure` says that it has no effect but its value. -/
  | call (callee : Node) (arguments : List Node) (optional isPure : Bool)
  | newCall (callee : Node) (arguments : List Node) (isPure : Bool)
  | member (object : Node) (name : String) (optional : Bool)
  | privateMember (object : Node) (name : String) (optional : Bool)
  | index (object key : Node) (optional : Bool)
  /-- The whole of an optional chain. -/
  | chain (inner : Node)
  | importCall (phase : String) (arguments : List Node)
  | metaProperty (whole part : String)
  | sequence (items : List Node)
  | parenthesized (inner : Node)
  | yieldTo (delegate : Bool) (operand : Option Node)
  | awaitFor (operand : Node)
  | spread (operand : Node)
  | privateName (text : String)
  /-- An expression with a type put to it, which does not change its value. -/
  | typed (inner : Node)
  /-- A generic value with its type arguments. -/
  | instantiated (inner arguments : Node)
  -- Types
  /-- A type or a member of one: what it is made of, in a row. -/
  | type (shape : TypeShape) (parts : List Node)
  /-- What stands between the parts of a type. -/
  | text (text : String)
  /-- The name of a type, used or bound. -/
  | typeName (text : String)
  /-- Type arguments or type parameters, in angle brackets. -/
  | typeList (items : List Node)
  /-- Members in braces, of an object type or, as `isBody` says, of an interface. -/
  | typeMembers (isBody : Bool) (members : List Node)
  /-- The parameters of a function type, in parentheses. -/
  | parameterList (parameters : List Node)
  -- Patterns
  | arrayPattern (isBinding : Bool) (elements : List Node) (rest : Option Node)
  | objectPattern (isBinding : Bool) (members : List Node) (rest : Option Node)
  | withDefault (target value : Node)
  | rest (target : Node)
  /-- A parameter with decorators; `isField` says that it also declares a field. -/
  | parameter (decorators : List Node) (isField : Bool) (pattern : Node)
  -- Members of classes and objects
  | method (decorators : List Node) (kind : MemberKind) (isStatic computed : Bool) (key : Node)
      (function : Node)
  /-- `words` are those in front of the key. -/
  | field (decorators : List Node) (words : List String) (computed : Bool) (key : Node)
      (value : Option Node)
  | staticBlock (body : List Node)
  /-- A member of a class that exists for types only. -/
  | typeMember (parts : List Node)
  -- Statements
  | directive (source : String)
  | expression (inner : Node)
  | variables (binder : Binder) (items : List Node)
  | variable (pattern : Node) (value : Option Node)
  | block (body : List Node)
  | functionBody (body : List Node)
  | empty
  | ifElse (test whenTrue : Node) (whenFalse : Option Node)
  | whileLoop (test body : Node)
  | doLoop (body test : Node)
  | forLoop (start test step : Option Node) (body : Node)
  | forInLoop (target collection body : Node)
  | forOfLoop (isAwait : Bool) (target collection body : Node)
  | returnWith (value : Option Node)
  | breakTo (label : Option String)
  | continueTo (label : Option String)
  | throwValue (value : Node)
  | tryBlock (block : Node) (handler finalizer : Option Node)
  | catchClause (parameter : Option Node) (body : Node)
  | switchOn (subject : Node) (cases : List Node)
  | switchCase (test : Option Node) (body : List Node)
  | labelled (label : String) (body : Node)
  | debugger
  | withObject (object body : Node)
  /-- `imported` is the imported name of a specifier, `localName` the name it gets here. -/
  | importSpecifier (imported : Node) (localName : String) (isType : Bool)
  | importDeclaration (isType : Bool) (phase : String) (default : Option Node)
      (space : Option Node) (named : Option (List Node)) (source : Node)
      (attributeWord : Option String) (attributes : List Node)
  | exportSpecifier (inner : Node) (outer : Node) (isType : Bool)
  | exportNames (isType : Bool) (specifiers : List Node) (source : Option Node)
  | exportDeclaration (declaration : Node)
  | exportDefault (inner : Node)
  | exportAll (isType : Bool) (space : Option Node) (source : Node)
      (attributeWord : Option String) (attributes : List Node)
  /-- `import a = b.c` or `import a = require('b')`, `value` being what is to be bound. -/
  | importEquals (isType isRequire : Bool) (name : String) (value : Node)
  | exportEquals (value : Node)
  /-- `export as namespace a`. -/
  | exportGlobal (name : String)
  | enumeration (isConst : Bool) (name : String) (members : List Node)
  | enumMember (name : List Nat) (value : Option Node)
  /-- A namespace behind its keyword; of a dotted name each part is a namespace of its own. -/
  | namespaceBlock (keyword name : String) (body : List Node)
  /-- A module that exists elsewhere, by its name, or without one the global scope. -/
  | ambientBlock (name : Option (List Nat)) (body : Option (List Node))
  /-- An alias of a type: what stands behind its name. -/
  | typeAlias (name : String) (parts : List Node)
  /-- An interface: what stands behind its name. -/
  | interface (name : String) (parts : List Node)
  /-- A declaration behind `declare`. -/
  | declared (declaration : Node)

end

namespace Node

/-- The bytes that a node covers. -/
def span : Node → Span
  | mk span _ => span

/-- What a node is. -/
def form : Node → Form
  | mk _ form => form

/-- The first byte of a node. -/
def start (n : Node) : Nat := n.span.start

/-- The byte behind a node. -/
def stop (n : Node) : Nat := n.span.stop

@[simp] theorem span_mk (s : Span) (f : Form) : (mk s f).span = s := rfl

@[simp] theorem form_mk (s : Span) (f : Form) : (mk s f).form = f := rfl

/-- A node of no extent that prints as a name; for what erasure puts in. -/
def ofName (text : String) : Node := mk ⟨0, 0⟩ (.name text)

/-- A text that stands in a type. -/
def ofText (text : String) : Node := mk ⟨0, 0⟩ (.text text)

/-- Nodes with a text between each two. -/
def separated (text : String) (nodes : List Node) : List Node :=
  nodes.intersperse (ofText text)

instance : Inhabited Node := ⟨mk ⟨0, 0⟩ .empty⟩

end Node

/-- A script: its first line if that is for the shell, its statements, the types put to its values,
its comments. -/
structure Program where
  hashbang : Option String
  body : List Node
  types : List Node
  comments : List Comment
  stop : Nat

end LivePreview.Script
