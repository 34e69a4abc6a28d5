import LivePreview.Script.Lexer.Cursor

/-!
# Numbers

A number is decimal, with fraction and exponent, or has a base named by its second character; its
digits may be separated by underscores. A name character may not follow it.
-/

namespace LivePreview.Script

open Text (Cursor)

/-- A run of digits with separators between them: the run, the place behind it, and a report when
a separator does not stand between two digits. -/
def scanDigits (isDigit : Char → Bool) (c : Cursor) : List Char × Cursor × Option Report :=
  match c.peek with
  | none => ([], c, none)
  | some first =>
    if !isDigit first then ([], c, none)
    else
      let (run, behind) := c.takeWhile fun ch => isDigit ch || ch == '_'
      let doubled := (run.zip (run.drop 1)).any fun (a, b) => a == '_' && b == '_'
      if doubled then (run, behind, some (.pointing (.invalidCharacter '_') (behind.offset - 1)))
      else if run.getLast? == some '_' then (run, behind, some (unexpectedAt behind))
      else (run, behind, none)

/-- The number ends here, whatever follows. -/
def endNumber (kind : Token.Kind) (text : List Char) (c : Cursor) (report? : Option Report) :
    Scanned :=
  match report? with
  | some report => ⟨.unknown, text, c, [], false, some report⟩
  | none => .plain kind text c

/-- The number ends here, unless a digit follows or a character that starts a name. -/
def finishNumber (kind : Token.Kind) (text : List Char) (c : Cursor) (report? : Option Report) :
    Scanned :=
  if report?.isNone && c.peek.any (fun ch => Text.isNameStart ch || Text.isDecimal ch) then
    .refused ((c.skip 1).takeWhile Text.isNameStart).2 .invalidNumberEnd c.offset
  else endNumber kind text c report?

/-- A number whose base its second character names. -/
def scanBased (c : Cursor) (isDigit : Char → Bool) : Scanned :=
  let digitsAt := c.skip 2
  match digitsAt.peek with
  | some ch =>
    if isDigit ch then
      let (run, behind, report?) := scanDigits isDigit digitsAt
      let text := c.rest.take 2 ++ run
      if behind.sees 'n' then finishNumber .bigint (text ++ ['n']) (behind.skip 1) report?
      else finishNumber .number text behind report?
    else ⟨.unknown, [], digitsAt, [], false, some (unexpectedAt digitsAt)⟩
  | none => ⟨.unknown, [], digitsAt, [], false, some (unexpectedAt digitsAt)⟩

/-- The exponent at a place, if one starts there: its text, the place behind it, a report when it
has no digits. -/
def scanExponent (c : Cursor) : List Char × Cursor × Option Report :=
  match c.rest with
  | e :: cs =>
    if e == 'e' || e == 'E' then
      let sign := cs.takeWhile (fun ch => ch == '+' || ch == '-') |>.take 1
      let digitsAt := c.skip (1 + sign.length)
      let (run, behind, report?) := scanDigits Text.isDecimal digitsAt
      if run.isEmpty then (e :: sign, digitsAt, some (unexpectedAt digitsAt))
      else (e :: sign ++ run, behind, report?)
    else ([], c, none)
  | [] => ([], c, none)

/-- A decimal number from its fraction on. -/
def scanFraction (whole : List Char) (c : Cursor) (report? : Option Report) : Scanned :=
  let (fraction, c, report2?) :=
    if c.sees '.' then
      let (run, behind, r?) := scanDigits Text.isDecimal (c.skip 1)
      ('.' :: run, behind, r?)
    else ([], c, none)
  let (exponent, c, report3?) := scanExponent c
  finishNumber .number (whole ++ fraction ++ exponent) c ((report?.or report2?).or report3?)

/-- A number that starts with a zero and a digit: an octal one if all its digits are. -/
def scanZeroLed (c : Cursor) : Scanned :=
  let (run, behind) := c.takeWhile Text.isDecimal
  if !run.any fun ch => ch == '8' || ch == '9' then finishNumber .number run behind none
  else if behind.sees '.' then scanFraction run behind none
  else if behind.sees 'e' then
    let (exponent, behind, report?) := scanExponent behind
    endNumber .number (run ++ exponent) behind report?
  else finishNumber .number run behind none

/-- A number, at a digit or at a point before one. Behind a lone zero an exponent ends the number
whatever follows. -/
def scanNumber (c : Cursor) : Scanned :=
  match c.rest with
  | '0' :: b :: _ =>
    if b == 'x' || b == 'X' then scanBased c fun ch => (Text.digitValue? ch).isSome
    else if b == 'o' || b == 'O' then scanBased c fun ch => '0' ≤ ch && ch ≤ '7'
    else if b == 'b' || b == 'B' then scanBased c fun ch => ch == '0' || ch == '1'
    else if b == 'e' || b == 'E' then
      let (exponent, behind, report?) := scanExponent (c.skip 1)
      endNumber .number ('0' :: exponent) behind report?
    else if b == '.' then scanFraction ['0'] (c.skip 1) none
    else if b == 'n' then finishNumber .bigint ['0', 'n'] (c.skip 2) none
    else if Text.isDecimal b then scanZeroLed c
    else finishNumber .number ['0'] (c.skip 1) none
  | _ =>
    let (run, behind, report?) := scanDigits Text.isDecimal c
    if !run.isEmpty && behind.sees 'n' then
      finishNumber .bigint (run ++ ['n']) (behind.skip 1) report?
    else scanFraction run behind report?

end LivePreview.Script
