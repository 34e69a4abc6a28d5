import LivePreview.Script.Numeral
import LivePreview.Script.Token
import LivePreview.Text.Blank
import LivePreview.Text.Identifier

/-!
# What a printer writes on

A `Sheet` is the text written so far, with what the next piece has to know of it: how deep the
lines are indented, whether the next indent is a mere space, where a statement, an arrow's
expression or a default export began, where the last number, sign or regular expression ended, and
which comments are still to come.
-/

namespace LivePreview.Script

/-- A text that is being printed. -/
structure Sheet where
  text : String
  size : Nat
  last : Option Char
  depth : Nat
  spaceNext : Bool
  /-- Where the last statement, arrow's expression and default export began. -/
  statementStart : Option Nat
  arrowStart : Option Nat
  defaultStart : Option Nat
  /-- Where a number ended that a point would continue. -/
  numberEnd : Option Nat
  /-- Where a regular expression ended. -/
  patternEnd : Option Nat
  /-- The last sign in front of an operand, and where it ended. -/
  sign : Option (Char × Nat)
  comments : List Comment

/-- A step of printing. -/
abbrev Print := StateM Sheet

namespace Print

/-- An empty sheet with the comments to come. Annotations are not among them: they belong to the
calls and functions that they tell of. -/
def blank (comments : List Comment) : Sheet :=
  ⟨"", 0, none, 0, false, none, none, none, none, none, none,
    comments.filter fun c => c.annotation?.isNone⟩

/-- Text is written. -/
def put (s : String) : Print Unit :=
  modify fun p =>
    { p with text := p.text ++ s, size := p.size + s.length, last := s.toList.getLast?.or p.last }

/-- The number of characters written. -/
def size : Print Nat := return (← get).size

/-- A line ends. -/
def newline : Print Unit := put "\n"

/-- The indent of a line, or a space where the line goes on. -/
def indent : Print Unit := do
  let p ← get
  if p.spaceNext then
    put " "
    modify fun p => { p with spaceNext := false }
  else put (String.ofList (List.replicate p.depth '\t'))

/-- The next line goes on behind what was written. -/
def continueLine : Print Unit := modify fun p => { p with spaceNext := true }

/-- What a step writes is indented by one more. -/
def deeper (step : Print Unit) : Print Unit := do
  modify fun p => { p with depth := p.depth + 1 }
  step
  modify fun p => { p with depth := p.depth - 1 }

/-- A space where a word would run into what stands before it. -/
def spaceBeforeWord : Print Unit := do
  let p ← get
  if p.patternEnd == some p.size || p.last.any Text.isNamePart then put " "

/-- A word is written, apart from what stands before it. -/
def word (s : String) : Print Unit := do
  spaceBeforeWord
  put s

/-- What a step writes is put in parentheses if need be. -/
def wrap (needed : Bool) (step : Print Unit) : Print Unit := do
  if needed then put "("
  step
  if needed then put ")"

/-- A statement ends. -/
def endStatement : Print Unit := put ";\n"

/-- A space where a sign would be one operator with the sign before it. -/
def spaceBeforeSign (s : String) : Print Unit := do
  let p ← get
  if let some (c, n) := p.sign then
    if n == p.size && (c == '+' || c == '-') && s.toList.head? == some c then put " "

/-- A sign, apart from what stands before it. -/
def putSign (s : String) : Print Unit := do
  put s
  modify fun p => { p with sign := s.toList.head?.map fun c => (c, p.size) }

/-- A number; a point behind it may need a space. -/
def putNumber (source : List Char) : Print Unit := do
  let size := Numeral.value source
  let text := Numeral.render size
  word (String.ofList text)
  if size != .infinite && !text.any fun c => c == '.' || c == 'e' || c == 'x' then
    modify fun p => { p with numberEnd := some p.size }

/-- The point of a member. -/
def putPoint : Print Unit := do
  let p ← get
  if p.numberEnd == some p.size then put " "
  put "."

/-- The source of a regular expression with its flags in the order of the alphabet. -/
def sortFlags (source : List Char) : List Char :=
  let flags := (source.reverse.takeWhile (· != '/')).mergeSort fun a b => a ≤ b
  source.take (source.length - flags.length) ++ flags

/-- A regular expression; behind a slash or in front of `script` it stands apart. -/
def putPattern (source : String) : Print Unit := do
  let p ← get
  let opensScript := (source.toList.drop 1).take 6 |>.map Char.toLower
  if p.last == some '/' || (p.last == some '<' && opensScript == "script".toList) then put " "
  put (String.ofList (sortFlags source.toList))
  modify fun p => { p with patternEnd := some p.size }

/-- The end tag of a script is broken up, so that the text can stand inside one. -/
def breakEndTag : List Char → List Char
  | '<' :: '/' :: rest =>
    if (rest.take 6).map Char.toLower == "script".toList then '<' :: '\\' :: '/' :: breakEndTag rest
    else '<' :: '/' :: breakEndTag rest
  | c :: rest => c :: breakEndTag rest
  | [] => []

/-- One character of a string, with the one behind it. -/
def escapePoint (point : Nat) (next : Option Nat) : List Char :=
  match point with
  | 0 => if next.any fun n => 48 ≤ n && n ≤ 57 then "\\x00".toList else "\\0".toList
  | 7 => "\\x07".toList
  | 8 => "\\b".toList
  | 10 => "\\n".toList
  | 11 => "\\v".toList
  | 12 => "\\f".toList
  | 13 => "\\r".toList
  | 27 => "\\x1B".toList
  | 34 => "\\\"".toList
  | 92 => "\\\\".toList
  | 0xA0 => "\\xA0".toList
  | 0x2028 => "\\u2028".toList
  | 0x2029 => "\\u2029".toList
  | n =>
    if 0xD800 ≤ n && n < 0xE000 then '\\' :: 'u' :: Text.fixedDigits 16 4 n else [Char.ofNat n]

/-- The characters of a string between its quotes. -/
def escapePoints : List Nat → List Char
  | [] => []
  | n :: ns => escapePoint n ns.head? ++ escapePoints ns

/-- A string in double quotes. -/
def putString (points : List Nat) : Print Unit :=
  put ("\"" ++ String.ofList (breakEndTag (escapePoints points)) ++ "\"")

/-! ## Comments -/

/-- The comments that introduce the token at a place are taken. -/
def takeComments (place : Nat) : Print (List Comment) := do
  let p ← get
  let (here, others) := p.comments.partition fun c => c.introduces == some place
  set { p with comments := others }
  return here

/-- A comment introduces the token at a place. -/
def hasComment (place : Nat) : Print Bool :=
  return (← get).comments.any fun c => c.introduces == some place

/-- The lines of a text. -/
def linesOf : List Char → List (List Char)
  | [] => [[]]
  | '\r' :: '\n' :: rest => [] :: linesOf rest
  | c :: rest =>
    if c == '\n' || c == '\r' || c == '\u2028' || c == '\u2029' then [] :: linesOf rest
    else
      match linesOf rest with
      | line :: lines => (c :: line) :: lines
      | [] => [[c]]

/-- A comment; the lines of one that runs over several are indented anew. -/
def putComment (c : Comment) : Print Unit := do
  if !(c.isBlock && c.hasLineEnd) then put (String.ofList (breakEndTag c.text))
  else
    for line in linesOf c.text do
      if line.take 2 != ['/', '*'] then indent
      put (String.ofList (breakEndTag (line.dropWhile Text.isBlank)))
      if line.reverse.take 2 != ['/', '*'] then newline

/-- What stands between two comments, or in front of the first. -/
def separateComments (before : Option Comment) (c : Comment) : Print Unit := do
  match before with
  | some before =>
    if !before.isBlock || before.beforeLineEnd then
      newline
      indent
    else if c.isLegal then newline
    else put " "
  | none =>
    if !c.afterLineEnd then indent
    else
      match (← get).last with
      | none | some '\t' => pure ()
      | some '\n' => indent
      | some _ =>
        newline
        indent

/-- Comments in front of what begins a line; `before` is the one that was written last. -/
def putComments (before : Option Comment) : List Comment → Print Unit
  | [] => do
    if let some before := before then
      if before.isBlock && !before.beforeLineEnd then continueLine else newline
  | c :: cs => do
    separateComments before c
    putComment c
    putComments (some c) cs

/-- The comments that introduce the token at a place. -/
def commentsAt (place : Nat) : Print Unit := do putComments none (← takeComments place)

/-- The comments that introduce a name of an export, and a space behind them. -/
def commentsBeforeName (place : Nat) : Print Unit := do
  let comments ← takeComments place
  if !comments.isEmpty then
    putComments none comments
    modify fun p => { p with spaceNext := false }
    put " "

/-- Comments behind the last statement of a body; what follows them stands on their line. -/
def trailingComments (comments : List Comment) : Print Unit := do
  putComments none comments
  if !comments.isEmpty then modify fun p => { p with spaceNext := false }

/-- The comments in front of an argument, each on its line; the answer tells if there were any. -/
def argumentComments (place : Nat) : Print Bool := do
  let comments ← takeComments place
  for c in comments do
    newline
    indent
    putComment c
  if comments.isEmpty then return false
  newline
  return true

end Print

end LivePreview.Script
