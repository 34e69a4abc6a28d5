import LivePreview.Text.Blank
import LivePreview.Text.Bytes

/-!
# Tokens

A token carries its kind, the text that the grammar compares and the bytes it covers, whether a
line ends between it and the token before, and whether a name was written with escapes.
-/

namespace LivePreview.Script

/-- The bytes from `start` up to `stop`. -/
structure Span where
  start : Nat
  stop : Nat
deriving DecidableEq, Repr, Inhabited

/-- What a token is. -/
inductive Token.Kind where
  | endOfText
  | unknown
  | word
  | mark
  | number
  | bigint
  | string
  | wholeTemplate
  | templateHead
  | templateMiddle
  | templateTail
  | regularExpression
  | privateName
deriving DecidableEq, Repr

/-- A token of a script. -/
structure Token where
  kind : Token.Kind
  /-- The name of a word, the sign of a mark, the source text of a literal. -/
  text : String
  span : Span
  afterLineEnd : Bool
  escaped : Bool
  /-- The code points that a string or a template part denotes; surrogates may stand alone. -/
  value : List Nat
deriving DecidableEq, Repr

namespace Token

/-- A mark with this sign. -/
def isMark (t : Token) (sign : String) : Bool := t.kind == .mark && t.text == sign

/-- A word with this name, however it is written. -/
def isWord (t : Token) (name : String) : Bool := t.kind == .word && t.text == name

/-- Words that are never names. -/
def reservedWords : List String :=
  ["break", "case", "catch", "class", "const", "continue", "debugger", "default", "delete", "do",
    "else", "enum", "export", "extends", "false", "finally", "for", "function", "if", "import",
    "in", "instanceof", "new", "null", "return", "super", "switch", "this", "throw", "true",
    "try", "typeof", "var", "void", "while", "with"]

/-- A word that is never a name. -/
def isReserved (t : Token) : Bool := t.kind == .word && reservedWords.contains t.text

/-- A word that may be a name. -/
def isName (t : Token) : Bool := t.kind == .word && !reservedWords.contains t.text

/-- How messages name the form of a written number. -/
def numberKind (text : List Char) : String :=
  match text with
  | '0' :: c :: _ =>
    if c == 'x' || c == 'X' then "hex"
    else if c == 'b' || c == 'B' then "binary"
    else if c == 'o' || c == 'O' || (text.drop 1).all fun d => '0' ≤ d && d ≤ '7' then "octal"
    else ofDecimal text
  | _ => ofDecimal text
where
  /-- The form of a number in base ten. -/
  ofDecimal (text : List Char) : String :=
    if text.any fun c => c == '.' || c == 'e' || c == 'E' then "float" else "decimal"

/-- Words that messages show as themselves; all others are shown as `Identifier`. -/
def knownWords : List String :=
  reservedWords ++
    ["await", "async", "let", "yield", "static", "abstract", "accessor", "any", "as", "assert",
      "asserts", "bigint", "boolean", "constructor", "declare", "defer", "from", "get", "global",
      "implements", "infer", "interface", "intrinsic", "is", "keyof", "meta", "module",
      "namespace", "never", "number", "object", "of", "out", "override", "package", "private",
      "protected", "public", "readonly", "require", "satisfies", "set", "source", "string",
      "symbol", "target", "type", "undefined", "unique", "unknown", "using"]

/-- How a message names a word. -/
def shownWord (name : String) : String :=
  if name == "namespace" then "namaespace"
  else if knownWords.contains name then name
  else "Identifier"

/-- How a message names the token it found. -/
def shown (t : Token) : String :=
  match t.kind with
  | .endOfText => "EOF"
  | .unknown => "Unknown"
  | .word => shownWord t.text
  | .mark => t.text
  | .number => numberKind t.text.toList
  | .bigint => numberKind t.text.toList ++ " bigint"
  | .string => "string"
  | .wholeTemplate => "$\x7b\x7d"
  | .templateHead => "$\x7b"
  | .templateMiddle => "$\x7bexpr\x7d"
  | .templateTail => "\x7d"
  | .regularExpression => "/regexp/"
  | .privateName => "#identifier"

end Token

/-- What a comment tells of the code behind it. -/
inductive Annotation where
  /-- The call has no effect but its value. -/
  | pureCall
  /-- Calls of the function have no effect but their value. -/
  | effectlessFunction
deriving DecidableEq, Repr

/-- A comment, with what stands around it. -/
structure Comment where
  span : Span
  text : List Char
  isBlock : Bool
  /-- The comment is written like one of a page's markup. -/
  isMarkup : Bool
  hasLineEnd : Bool
  afterLineEnd : Bool
  beforeLineEnd : Bool
  /-- The start of the token that the comment introduces; none for one that trails a token. -/
  introduces : Option Nat
deriving DecidableEq, Repr

namespace Comment

/-- What stands inside the marks of a comment. -/
def inside (c : Comment) : List Char :=
  if c.isBlock then (c.text.drop 2).take (c.text.length - 4) else c.text.drop 2

/-- A comment in the form of documentation. -/
def isDocumentation (c : Comment) : Bool := c.isBlock && c.inside.head? == some '*'

/-- What a comment tells of the code behind it, if it starts with an annotation; one for
documentation does not. -/
def annotation? (c : Comment) : Option Annotation :=
  if c.isDocumentation then none
  else
    match c.inside.dropWhile Text.isBlank with
    | mark :: rest =>
      if mark != '@' && mark != '#' then none
      else if "__PURE__".toList.isPrefixOf rest then some .pureCall
      else if "__NO_SIDE_EFFECTS__".toList.isPrefixOf rest then some .effectlessFunction
      else none
    | [] => none

/-- A text that tells of a licence: it has one of two words with more behind a short one. -/
def tellsLicence : List Char → Bool
  | [] => false
  | c :: cs =>
    (8 ≤ cs.length && ["@license", "@preserve"].any fun w => w.toList.isPrefixOf (c :: cs)) ||
      tellsLicence cs

/-- A comment that has to be kept: it starts with an exclamation mark, or tells of a licence. -/
def isLegal (c : Comment) : Bool :=
  let start := c.inside.dropWhile Text.isBlank
  c.inside.head? == some '!' || "@license".toList.isPrefixOf start ||
    "@preserve".toList.isPrefixOf start || tellsLicence c.inside

end Comment

end LivePreview.Script
