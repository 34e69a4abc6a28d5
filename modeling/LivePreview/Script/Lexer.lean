import LivePreview.Script.Lexer.Number
import LivePreview.Script.Lexer.Quoted
import LivePreview.Script.Lexer.Trivia

/-!
# Reading one token

`Lexer.next` skips trivia and reads the token behind it. What a slash, a closing brace or a
closing angle bracket starts depends on the grammar, so these are read as the shortest mark, and
`rescan` functions read them again when the grammar asks.
-/

namespace LivePreview.Script.Lexer

open Text (Cursor)

/-- The marks, none behind one that it starts with. -/
def marks : List (List Char) :=
  ["...", "<<=", "===", "!==", "**=", "&&=", "||=", "??=", "<<", "<=", "==", "=>", "!=", "++",
    "+=", "--", "-=", "**", "*=", "/=", "%=", "&&", "&=", "||", "|=", "^=", "??", "?.", "\x7b",
    "\x7d", "(", ")", "[", "]", ".", ";", ",", "<", ">", "=", "!", "+", "-", "*", "/", "%", "&",
    "|", "^", "~", "?", ":", "@"].map String.toList

/-- The mark at a place; an optional chain's is none before a digit. -/
def markAt (cs : List Char) : Option (List Char) :=
  match marks.find? fun m => m.isPrefixOf cs with
  | some ['?', '.'] =>
    if (cs.drop 2).head?.any Text.isDecimal then some ['?'] else some ['?', '.']
  | m => m

/-- The token at a place where trivia has been skipped. -/
def scanToken (c : Cursor) : Scanned :=
  match c.rest with
  | [] => .plain .endOfText [] c
  | ch :: cs =>
    if Text.isNameStart ch || ch == '\\' then scanName .word c
    else if Text.isDecimal ch || (ch == '.' && cs.head?.any Text.isDecimal) then scanNumber c
    else if ch == '"' || ch == '\'' then scanString ch c
    else if ch == '`' then scanTemplate true c
    else if ch == '#' then
      let name := c.skip 1
      if name.peek.any fun d => Text.isNameStart d || d == '\\' then scanName .privateName name
      else ⟨.unknown, [], name.skip 1, [], false, some (unexpectedAt name)⟩
    else
      match markAt c.rest with
      | some m => .plain .mark m (c.skip m.length)
      | none =>
        if ch == '\uFFFD' then ⟨.unknown, [], c.skip 1, [], false, some ⟨.binaryFile, none⟩⟩
        else .refused (c.skip 1) (.invalidCharacter ch) c.offset

/-- A token with the place behind it, the comments before it and what is wrong with them. -/
structure Read where
  token : Token
  /-- The place at which the token starts. -/
  place : Cursor
  /-- The place behind the token. -/
  behind : Cursor
  comments : List Comment
  reports : List Report

/-- A scanned token at its place. -/
def tokenOf (s : Scanned) (start : Nat) (afterLineEnd : Bool) : Token :=
  ⟨s.kind, String.ofList s.text, ⟨start, s.cursor.offset⟩, afterLineEnd, s.escaped, s.value⟩

/-- The next token. -/
def next (c : Cursor) (atStart afterOpening : Bool) : Read :=
  let (trivia, place) := scanTrivia afterOpening .outside c.offset (.initial atStart) c.rest
  let s := scanToken place
  let token := tokenOf s place.offset trivia.lineEnd
  { token, place, behind := s.cursor
    comments := trivia.comments place.offset
    reports := trivia.report?.toList ++ s.report?.toList }

/-- The regular expression that starts with the current slash. -/
def rescanRegularExpression (place : Cursor) (afterLineEnd : Bool) : Read :=
  let s := scanRegularExpression place
  ⟨tokenOf s place.offset afterLineEnd, place, s.cursor, [], s.report?.toList⟩

/-- The template part that starts with the current closing brace. -/
def rescanTemplate (place : Cursor) (afterLineEnd : Bool) : Read :=
  let s := scanTemplate false place
  ⟨tokenOf s place.offset afterLineEnd, place, s.cursor, [], s.report?.toList⟩

/-- The marks that start with a closing angle bracket, longest first. -/
def closingAngles : List (List Char) :=
  [">>>=", ">>>", ">>=", ">>", ">=", ">"].map String.toList

/-- The longest operator that starts with the current closing angle bracket. -/
def rescanClosingAngle (place : Cursor) (afterLineEnd : Bool) : Read :=
  let m := (closingAngles.find? fun m => m.isPrefixOf place.rest).getD ['>']
  let s := Scanned.plain .mark m (place.skip m.length)
  ⟨tokenOf s place.offset afterLineEnd, place, s.cursor, [], []⟩

/-- The single opening angle bracket that a longer mark starts with. -/
def rescanOpeningAngle (place : Cursor) (afterLineEnd : Bool) : Read :=
  let s := Scanned.plain .mark ['<'] (place.skip 1)
  ⟨tokenOf s place.offset afterLineEnd, place, s.cursor, [], []⟩

end LivePreview.Script.Lexer
