/-!
# What can be wrong with a script

Each way in which a script fails to be one, with the message shown for it.
-/

namespace LivePreview.Script

/-- Where a modifier cannot stand. -/
inductive ModifierFault where
  | parameter
  | typeMember
  | typeParameter
  | classElement
  | constructor
  | indexSignature
  | declaration
  /-- The modifier is one of type parameters. -/
  | notTypeParameter
  /-- The modifier is one of properties. -/
  | notProperty
deriving DecidableEq, Repr

/-- Why a script is refused. -/
inductive Diagnostic where
  | unexpectedToken
  | unexpectedEnd
  | expected (wanted found : String)
  | expectedSeparator (separator closing found : String)
  | missingSemicolon
  | conflictMarker
  | binaryFile
  | markupCommentInModule
  | invalidCharacter (c : Char)
  | invalidNumberEnd
  | invalidEscape
  | invalidUnicodeEscape
  | invalidTemplateEscape
  | escapedKeyword
  | unterminatedString
  | unterminatedComment
  | unterminatedRegularExpression
  | regularExpressionFlag (c : Char)
  | repeatedRegularExpressionFlag (c : Char)
  | clashingRegularExpressionFlags
  | lineEndAfterThrow
  | lineEndBeforeArrow
  | missingFunctionName
  | missingSwitchClause
  | missingCatchOrFinally
  | missingNameInOptionalChain
  | missingConstInitializer
  | missingPatternInitializer
  | missingUsingInitializer
  | usingPattern
  | usingInCase
  | usingExported
  | usingInForIn (isAwait : Bool)
  | definiteWithoutType
  | definiteWithInitializer
  | optionalVariable
  | restPattern
  | yieldOutsideGenerator
  | awaitOutsideAsync
  | returnOutsideFunction
  | awaitInPlainFor
  | asyncInForOf
  | letInForOf
  | reservedName (name : String)
  | awaitAsName
  | yieldAsName
  | invalidAssignmentTarget
  | instantiatedTarget
  | targetDefaultOperator
  | targetRest
  | targetSpreadNotLast
  | invalidShorthandInitializer
  | lexicalInSingleStatement
  | asyncInSingleStatement
  | generatorInSingleStatement
  | classInSingleStatement
  | emptyParentheses
  | restNotLastInPattern
  | restNotLastInParameters
  | commaBehindRest
  | optionalRestParameter
  | restInitializer
  | optionalParameterInitializer
  | parameterFieldPattern
  | arrowThisParameter
  | accessorThisParameter
  | privateNameOperand
  | instantiatedMember
  | newOptionalChain
  | newImport
  | importWithoutSpecifier
  | importArguments
  | taggedTemplateInOptionalChain
  | newTarget
  | importMeta
  | misplacedSuper
  | unaryPower (operator : String)
  | mixedCoalescing
  | constructorGetSet
  | constructorAsync
  | constructorGenerator
  | constructorField
  | privateConstructor
  | staticPrototype
  | constructorTypeParameters
  | constructorReturnType
  | constructorThisParameter
  | accessibilityOfPrivateName
  | optionalAccessor
  | getterParameters
  | setterParameters
  | setterRest
  | setterReturnType
  | setterInitializer
  | constMember
  | abstractInitializer (name : String)
  | abstractImplementation (isAccessor : Bool) (name : String)
  | decoratedOverload
  | optionalDefinite
  | modifier (name : String) (fault : ModifierFault)
  | modifierRepeated (name : String)
  | accessibilityRepeated
  | modifierOrder (name behind : String)
  | modifiersClash (name other : String)
  | extendsRepeated
  | extendsSeveral
  | extendsBehindImplements
  | implementsRepeated
  | interfaceImplements
  | interfaceExtends
  | indexOptional
  | indexCount
  | indexTrailingComma
  | computedEnumMember
  | numericEnumMember
  | tupleSecondRest
  | tupleOptionalBehindRest
  | tupleRequiredBehindOptional
  | tupleOptionalType
  | tupleOptionalRest
  | readonlyType
  | importTypeOptions
  | importTypeKey
  | importTypeSpread
  | ambientImplementation
  | emptyTypeArguments
  | emptyTypeParameters
  | misplacedDecorators
  | decoratorsAroundExport
  | stringExportWithoutSource
  | reservedExportWithoutSource
  | missingImportName
  | loneSurrogateName
  | exportedImport
  | repeatedAttribute (name : String)
  | attributeValue
  | sourcePhaseNames
  | deferredDefault
  | deferredNames
  | typeImportDefaultAndNames
  | typeItemInTypeImport
  | typeItemInTypeExport
deriving DecidableEq, Repr

/-- What a message says of a modifier that cannot stand at a place. -/
def ModifierFault.phrase : ModifierFault → String
  | parameter => "cannot appear on a parameter."
  | typeMember => "cannot appear on a type member."
  | typeParameter => "cannot be used on a type parameter."
  | classElement => "cannot appear on class elements of this kind."
  | constructor => "cannot appear on a constructor declaration."
  | indexSignature => "cannot appear on an index signature."
  | declaration => "cannot be used here."
  | notTypeParameter =>
    "can only appear on a type parameter of a class, interface or type alias."
  | notProperty => "can only appear on a property declaration or index signature."

namespace Diagnostic

/-- The message shown for a diagnostic. -/
def message : Diagnostic → String
  | unexpectedToken => "Unexpected token"
  | unexpectedEnd => "Unexpected end of file"
  | expected wanted found => "Expected `" ++ wanted ++ "` but found `" ++ found ++ "`"
  | expectedSeparator separator closing found =>
    "Expected `" ++ separator ++ "` or `" ++ closing ++ "` but found `" ++ found ++ "`"
  | missingSemicolon =>
    "Expected a semicolon or an implicit semicolon after a statement, but found none"
  | conflictMarker => "Encountered diff marker"
  | binaryFile => "File appears to be binary."
  | markupCommentInModule => "HTML comments are not allowed in modules"
  | invalidCharacter c => "Invalid Character `" ++ c.toString ++ "`"
  | invalidNumberEnd => "Invalid characters after number"
  | invalidEscape => "Invalid escape sequence"
  | invalidUnicodeEscape => "Invalid Unicode escape sequence"
  | invalidTemplateEscape => "Bad escape sequence in untagged template literal"
  | escapedKeyword => "Keywords cannot contain escape characters"
  | unterminatedString => "Unterminated string"
  | unterminatedComment => "Unterminated multiline comment"
  | unterminatedRegularExpression => "Unterminated regular expression"
  | regularExpressionFlag c =>
    "Unexpected flag " ++ c.toString ++ " in regular expression literal"
  | repeatedRegularExpressionFlag c =>
    "Flag " ++ c.toString ++ " is mentioned twice in regular expression literal"
  | clashingRegularExpressionFlags =>
    "The 'u' and 'v' regular expression flags cannot be enabled at the same time"
  | lineEndAfterThrow => "Illegal newline after throw"
  | lineEndBeforeArrow => "Line terminator not permitted before arrow"
  | missingFunctionName => "Expected function name"
  | missingSwitchClause => "Expected switch clause"
  | missingCatchOrFinally => "Missing catch or finally clause"
  | missingNameInOptionalChain => "Identifier expected after '?.'"
  | missingConstInitializer => "Missing initializer in const declaration"
  | missingPatternInitializer => "Missing initializer in destructuring declaration"
  | missingUsingInitializer => "Using declarations must have an initializer."
  | usingPattern => "Using declarations may not have binding patterns."
  | usingInCase => "Using declaration cannot appear in the bare case statement."
  | usingExported => "Using declarations cannot be exported directly."
  | usingInForIn isAwait =>
    "The left-hand side of a for...in statement cannot be an " ++
      (if isAwait then "await using" else "using") ++ " declaration."
  | definiteWithoutType =>
    "Declarations with definite assignment assertions must also have type annotations."
  | definiteWithInitializer =>
    "Declarations with initializers cannot also have definite assignment assertions."
  | optionalVariable => "Optional declaration is not allowed here"
  | restPattern => "Invalid rest element"
  | yieldOutsideGenerator => "A 'yield' expression is only allowed in a generator body."
  | awaitOutsideAsync =>
    "`await` is only allowed within async functions and at the top levels of modules"
  | returnOutsideFunction => "A 'return' statement can only be used within a function body."
  | awaitInPlainFor => "await can only be used in conjunction with `for...of` statements"
  | asyncInForOf => "The left-hand side of a `for...of` statement may not be `async`"
  | letInForOf => "The left-hand side of a `for...of` statement may not start with `let`"
  | reservedName name =>
    "Identifier expected. '" ++ name ++ "' is a reserved word that cannot be used here."
  | awaitAsName => "Cannot use `await` as an identifier in an async context"
  | yieldAsName => "Cannot use `yield` as an identifier in a generator context"
  | invalidAssignmentTarget => "Cannot assign to this expression"
  | instantiatedTarget =>
    "The left-hand side of an assignment expression must be a variable or a property access."
  | targetDefaultOperator => "Only '=' operator can be used for specifying default value."
  | targetRest => "Invalid rest operator's argument."
  | targetSpreadNotLast => "Spread must be last element"
  | invalidShorthandInitializer => "Invalid assignment in object literal"
  | lexicalInSingleStatement =>
    "Lexical declaration cannot appear in a single-statement context"
  | asyncInSingleStatement =>
    "Async functions can only be declared at the top level or inside a block"
  | generatorInSingleStatement =>
    "Generators can only be declared at the top level or inside a block"
  | classInSingleStatement => "Invalid class declaration"
  | emptyParentheses => "Empty parenthesized expression"
  | restNotLastInPattern => "A rest element must be last in a destructuring pattern"
  | restNotLastInParameters => "A rest parameter must be last in a parameter list"
  | commaBehindRest => "A rest parameter or binding pattern may not have a trailing comma."
  | optionalRestParameter => "A rest parameter cannot be optional"
  | restInitializer => "A rest element cannot have an initializer."
  | optionalParameterInitializer =>
    "A parameter cannot have a question mark and an initializer."
  | parameterFieldPattern =>
    "A parameter property may not be declared using a binding pattern."
  | arrowThisParameter => "An arrow function cannot have a `this` parameter."
  | accessorThisParameter => "'get' and 'set' accessors cannot declare 'this' parameters."
  | privateNameOperand => "Unexpected private identifier"
  | instantiatedMember =>
    "An instantiation expression cannot be followed by a property access."
  | newOptionalChain => "Invalid optional chain from new expression."
  | newImport => "Cannot use new with dynamic import"
  | importWithoutSpecifier => "import() requires a specifier."
  | importArguments =>
    "Dynamic imports can only accept a module specifier and an optional set of attributes as " ++
      "arguments"
  | taggedTemplateInOptionalChain =>
    "Tagged template expressions are not permitted in an optional chain"
  | newTarget => "The only valid meta property for new is new.target"
  | importMeta => "The only valid meta property for import is import.meta"
  | misplacedSuper => "'super' can only be used with function calls or in property accesses"
  | unaryPower _ => "Unexpected exponentiation expression"
  | mixedCoalescing => "Logical expressions and coalesce expressions cannot be mixed"
  | constructorGetSet => "Constructor can't have get/set modifier"
  | constructorAsync => "Constructor can't be an async method"
  | constructorGenerator => "Constructor can't be a generator"
  | constructorField => "Classes can't have a field named 'constructor'"
  | privateConstructor => "Classes can't have an element named '#constructor'"
  | staticPrototype => "Classes may not have a static property named 'prototype'"
  | constructorTypeParameters => "Type parameters cannot appear on a constructor declaration"
  | constructorReturnType => "Type annotation cannot appear on a constructor declaration."
  | constructorThisParameter => "A constructor cannot have a `this` parameter."
  | accessibilityOfPrivateName =>
    "An accessibility modifier cannot be used with a private identifier."
  | optionalAccessor => "An 'accessor' property cannot be declared optional."
  | getterParameters => "A 'get' accessor must not have any formal parameters."
  | setterParameters => "A 'set' accessor must have exactly one parameter."
  | setterRest => "A 'set' accessor cannot have rest parameter."
  | setterReturnType => "A 'set' accessor cannot have a return type annotation."
  | setterInitializer => "A 'set' accessor cannot have an initializer."
  | constMember => "A class member cannot have the 'const' keyword."
  | abstractInitializer name =>
    "Property '" ++ name ++ "' cannot have an initializer because it is marked abstract."
  | abstractImplementation isAccessor name =>
    (if isAccessor then "Accessor '" else "Method '") ++ name ++
      "' cannot have an implementation because it is marked abstract."
  | decoratedOverload => "A decorator can only decorate a method implementation, not an overload."
  | optionalDefinite => "A property cannot be both optional and definite."
  | modifier name fault => "'" ++ name ++ "' modifier " ++ fault.phrase
  | modifierRepeated name => "'" ++ name ++ "' modifier already seen."
  | accessibilityRepeated => "Accessibility modifier already seen."
  | modifierOrder name behind =>
    "'" ++ name ++ "' modifier must precede '" ++ behind ++ "' modifier."
  | modifiersClash name other =>
    "'" ++ name ++ "' modifier cannot be used with '" ++ other ++ "' modifier."
  | extendsRepeated => "'extends' clause already seen"
  | extendsSeveral => "Classes can only extend a single class."
  | extendsBehindImplements => "'extends' clause must precede 'implements' clause"
  | implementsRepeated => "'implements' clause already seen"
  | interfaceImplements => "Interface declaration cannot have 'implements' clause."
  | interfaceExtends =>
    "An interface can only extend an identifier/qualified-name with optional type arguments."
  | indexOptional => "An index signature parameter cannot have a question mark."
  | indexCount => "An index signature must have exactly one parameter."
  | indexTrailingComma => "Index signature declarations may not have a trailing comma."
  | computedEnumMember => "Computed property names are not allowed in enums."
  | numericEnumMember => "An enum member cannot have a numeric name."
  | tupleSecondRest => "A rest element cannot follow another rest element."
  | tupleOptionalBehindRest => "An optional element cannot follow a rest element."
  | tupleRequiredBehindOptional => "A required element cannot follow an optional element."
  | tupleOptionalType =>
    "A labeled tuple element is declared as optional with a question mark after the name and " ++
      "before the colon, rather than after the type."
  | tupleOptionalRest => "A tuple member cannot be both optional and rest."
  | readonlyType =>
    "'readonly' type modifier is only permitted on array and tuple literal types."
  | importTypeOptions => "Expected 'with' in import type options"
  | importTypeKey => "Import attributes keys must be identifier or string literal."
  | importTypeSpread => "Spread elements are not allowed in import type options."
  | ambientImplementation => "An implementation cannot be declared in ambient contexts."
  | emptyTypeArguments => "Type argument list cannot be empty."
  | emptyTypeParameters => "Type parameter list cannot be empty."
  | misplacedDecorators => "Decorators are not valid here."
  | decoratorsAroundExport =>
    "Decorators may not appear after 'export' or 'export default' if they also appear before " ++
      "'export'."
  | stringExportWithoutSource =>
    "A string literal cannot be used as an exported binding without `from`"
  | reservedExportWithoutSource =>
    "A reserved word cannot be used as an exported binding without `from`"
  | missingImportName => "Identifier expected."
  | loneSurrogateName => "An export name cannot include a unicode lone surrogate"
  | exportedImport => "Unexpected export."
  | repeatedAttribute name => "Identifier `" ++ name ++ "` has already been declared"
  | attributeValue => "Only string literals are allowed as module attribute values."
  | sourcePhaseNames => "Only a single default import is allowed in a source phase import."
  | deferredDefault => "Default imports are not allowed in a deferred import."
  | deferredNames => "Named imports are not allowed in a deferred import."
  | typeImportDefaultAndNames =>
    "A type-only import can specify a default import or named bindings, but not both."
  | typeItemInTypeImport =>
    "The 'type' modifier cannot be used on a named import when 'import type' is used on its " ++
      "import statement."
  | typeItemInTypeExport =>
    "The 'type' modifier cannot be used on a named export when 'export type' is used on its " ++
      "export statement."

end Diagnostic

/-- A diagnostic and the byte that it points at, if it points at one. -/
structure Report where
  diagnostic : Diagnostic
  place : Option Nat
deriving DecidableEq, Repr

/-- A diagnostic that points at a byte. -/
def Report.pointing (diagnostic : Diagnostic) (offset : Nat) : Report := ⟨diagnostic, some offset⟩

end LivePreview.Script
