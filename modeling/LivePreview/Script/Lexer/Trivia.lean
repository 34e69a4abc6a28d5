import LivePreview.Script.Lexer.Cursor

/-!
# Between two tokens

Spaces, line ends and comments. A comment introduces the token behind it, unless it trails the
token before: it stands on that token's line and a line end follows, or it is a line comment that
does not follow an opening (`=` or an open parenthesis). The marks of a page's comments, `<!--`
anywhere and `-->` in front of a line's first token, start line comments too.
-/

namespace LivePreview.Script

open Text (Cursor)

/-- What has been read between two tokens. -/
structure Trivia where
  /-- A line has ended, so that the next token is the first of its line. -/
  lineEnd : Bool
  /-- A line has ended outside of block comments. -/
  sawLineEnd : Bool
  /-- Comments that may introduce the next token, last first. -/
  waiting : List Comment
  /-- Comments that trail the token before, last first. -/
  trailing : List Comment
  report? : Option Report

namespace Trivia

/-- Nothing read yet; the start of the source counts as the start of a line. -/
def initial (atStart : Bool) : Trivia := ⟨atStart, atStart, [], [], none⟩

/-- All waiting comments turn out to trail the token before. -/
def settle (t : Trivia) : Trivia := { t with waiting := [], trailing := t.waiting ++ t.trailing }

/-- A line ends. -/
def endLine (t : Trivia) : Trivia :=
  let t := match t.waiting with
    | [] => t
    | last :: before =>
      let t := { t with waiting := { last with beforeLineEnd := true } :: before }
      if t.sawLineEnd then t else t.settle
  { t with lineEnd := true, sawLineEnd := true }

/-- A line comment ends. -/
def addLine (t : Trivia) (afterOpening : Bool) (span : Span) (text : List Char) : Trivia :=
  let isMarkup := text.head? != some '/'
  let t' := { t with
    waiting := ⟨span, text, false, isMarkup, false, t.sawLineEnd, true, none⟩ :: t.waiting }
  let t' := if t.sawLineEnd || afterOpening then t' else t'.settle
  { t' with lineEnd := true, sawLineEnd := true }

/-- A block comment ends. -/
def addBlock (t : Trivia) (span : Span) (text : List Char) (hasLineEnd : Bool) : Trivia :=
  { t with
    waiting := ⟨span, text, true, false, hasLineEnd, t.sawLineEnd, false, none⟩ :: t.waiting
    lineEnd := t.lineEnd || hasLineEnd }

/-- The comments read, in order, now that the token behind them starts at `start`. -/
def comments (t : Trivia) (start : Nat) : List Comment :=
  t.trailing.reverse ++ (t.waiting.map fun c => { c with introduces := some start }).reverse

end Trivia

/-- Where in a stretch of trivia a scanner is. -/
inductive TriviaMode where
  | outside
  | line (start : Nat) (text : List Char)
  | block (start : Nat) (text : List Char) (hasLineEnd : Bool)

/-- Reads trivia up to the next token. `afterOpening` tells that the token before opens something;
`n` is the current byte. -/
def scanTrivia (afterOpening : Bool) : TriviaMode → Nat → Trivia → List Char → Trivia × Cursor
  | .outside, n, t, '/' :: '/' :: cs => scanTrivia afterOpening (.line n ['/', '/']) (n + 2) t cs
  | .outside, n, t, '/' :: '*' :: cs =>
    scanTrivia afterOpening (.block n ['*', '/'] false) (n + 2) t cs
  | .outside, n, t, '<' :: '!' :: '-' :: '-' :: cs =>
    scanTrivia afterOpening (.line n ['-', '-', '!', '<']) (n + 4) t cs
  | .outside, n, t, [] => (t, ⟨[], n⟩)
  | .outside, n, t, c :: cs =>
    if isLineTerminator c then scanTrivia afterOpening .outside (n + c.utf8Size) t.endLine cs
    else if isScriptSpace c then scanTrivia afterOpening .outside (n + c.utf8Size) t cs
    else if t.lineEnd && (c :: cs).take 3 == ['-', '-', '>'] then
      scanTrivia afterOpening (.line n [c]) (n + c.utf8Size) t cs
    else (t, ⟨c :: cs, n⟩)
  | .line start text, n, t, [] => (t.addLine afterOpening ⟨start, n⟩ text.reverse, ⟨[], n⟩)
  | .line start text, n, t, c :: cs =>
    if isLineTerminator c then
      scanTrivia afterOpening .outside (n + c.utf8Size)
        (t.addLine afterOpening ⟨start, n⟩ text.reverse) cs
    else scanTrivia afterOpening (.line start (c :: text)) (n + c.utf8Size) t cs
  | .block start _ _, n, t, [] =>
    ({ t with report? := some (.pointing .unterminatedComment start) }, ⟨[], n⟩)
  | .block start text hasLineEnd, n, t, '*' :: '/' :: cs =>
    scanTrivia afterOpening .outside (n + 2)
      (t.addBlock ⟨start, n + 2⟩ ('/' :: '*' :: text).reverse hasLineEnd) cs
  | .block start text hasLineEnd, n, t, c :: cs =>
    scanTrivia afterOpening (.block start (c :: text) (hasLineEnd || isLineTerminator c))
      (n + c.utf8Size) t cs

end LivePreview.Script
