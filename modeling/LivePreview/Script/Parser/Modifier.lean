import LivePreview.Script.Parser.Basic

/-!
# Modifiers

Words in front of a declaration, a member, a parameter or a type parameter. A word is a modifier
only where what follows it can be modified; modifiers have an order, and each place admits some.
-/

namespace LivePreview.Script.Parser

/-- The words that say who may use a member. -/
def accessibilityWords : List String := ["public", "private", "protected"]

/-- The words that may be modifiers. -/
def modifierWords : List String :=
  accessibilityWords ++
    ["abstract", "accessor", "async", "const", "declare", "default", "export", "in", "out",
      "override", "readonly", "static"]

/-- The token may be the name of a member that is not in brackets. -/
def isPlainMemberName (t : Token) : Bool :=
  t.kind == .word || t.kind == .string || t.kind == .number || t.kind == .bigint ||
    t.kind == .privateName

/-- The token may be the name of a member. -/
def startsMemberName (t : Token) : Bool := isPlainMemberName t || t.isMark "["

/-- The name of a member follows `get` or `set`, which is a word of its own then. -/
def atAccessor : P Bool := do
  if !(← atWord "get") && !(← atWord "set") then return false
  nextIs do return startsMemberName (← token)

/-- A token that may follow a modifier. -/
def followsModifier (t : Token) : Bool :=
  startsMemberName t || t.isMark "\x7b" || t.isMark "*" || t.isMark "..."

/-- A token that may follow `export`. -/
def followsExport (t : Token) : Bool :=
  t.isMark "@" || (followsModifier t && !t.isMark "*" && !t.isMark "\x7b" && !t.isWord "as")

/-- The next token is this word, on the same line. -/
def nextIsWord (name : String) : P Bool := nextIs do
  let t ← token
  return t.isWord name && !t.afterLineEnd

/-- What follows `default` can be exported by default. -/
def followsDefault : P Bool := do
  let t ← token
  if t.isWord "class" || t.isWord "function" || t.isWord "interface" || t.isMark "@" then
    return true
  if t.isWord "abstract" then return ← nextIsWord "class"
  if t.isWord "async" then return ← nextIsWord "function"
  return false

/-- The current token is a modifier. The word `const` is one only where it `mayBeConst`. -/
def atModifier (mayBeConst : Bool) : P Bool := do
  let t ← token
  if t.kind != .word || !modifierWords.contains t.text then return false
  match t.text with
  | "export" => nextIs do
    let u ← token
    if u.isWord "default" then nextIs followsDefault
    else if u.isWord "type" then nextIs do return followsExport (← token)
    else return followsExport u
  | "static" => nextIs do return followsModifier (← token)
  | "const" => if mayBeConst then followsOnLine else return false
  | _ => followsOnLine
where
  /-- Something that can be modified follows on the line. -/
  followsOnLine : P Bool := nextIs do
    let u ← token
    return followsModifier u && !u.afterLineEnd

/-- The modifiers that a modifier must not stand behind. -/
def laterModifiers (name : String) : List String :=
  if accessibilityWords.contains name then
    ["override", "static", "accessor", "readonly", "async"]
  else
    match name with
    | "static" => ["readonly", "async", "accessor", "override"]
    | "override" => ["readonly", "accessor", "async"]
    | "abstract" => ["override", "accessor"]
    | "export" => ["declare", "abstract", "async"]
    | _ => []

/-- What is wrong with a modifier behind others. -/
def modifierReport (before : List String) (name : String) : Option Diagnostic :=
  if accessibilityWords.contains name && before.any accessibilityWords.contains then
    some .accessibilityRepeated
  else if before.contains name then some (.modifierRepeated name)
  else ((laterModifiers name).find? before.contains).map (.modifierOrder name)

/-- The modifiers that stand here behind some that were read before. A second `static` is a name,
and before a block it is none where it `mayOpenBlock`. -/
def modifiersBehind (before : List String) (mayBeConst mayOpenBlock : Bool) : P (List Token) := do
  let found ← improve ([] : List Token) fun found => do
    let t ← token
    let names := found.map Token.text ++ before
    if t.isWord "static" then
      if names.contains "static" then return none
      if mayOpenBlock && (← nextIs (at? "\x7b")) then return none
    if !(← atModifier mayBeConst) then return none
    advance
    if let some diagnostic := modifierReport names t.text then
      reportAt diagnostic t.span.start
    return some (t :: found)
  return found.reverse

/-- The modifiers that stand here. -/
def modifiers (mayBeConst mayOpenBlock : Bool) : P (List Token) :=
  modifiersBehind [] mayBeConst mayOpenBlock

/-- A modifier with this name is among some. -/
def hasModifier (found : List Token) (name : String) : Bool := found.any (·.isWord name)

/-- Reports the modifiers that a place does not admit. -/
def checkModifiers (found : List Token) (admitted : List String) (fault : ModifierFault) :
    P Unit := do
  for t in found do
    if !admitted.contains t.text then reportAt (.modifier t.text fault) t.span.start

end LivePreview.Script.Parser
