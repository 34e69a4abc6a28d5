import LivePreview.Script.Lexer.Word

/-!
# Strings, templates, regular expressions

1. A string denotes code points; surrogates written as escapes may stand alone.
2. A part of a template is kept as written, its line ends as line feeds.
3. A regular expression ends at the first slash outside of brackets; its flags are letters and
   digits.
-/

namespace LivePreview.Script

open Text (Cursor)

/-- Up to `most` octal digits. -/
def octalDigits (most : Nat) (cs : List Char) : List Char :=
  (cs.takeWhile fun ch => '0' ≤ ch && ch ≤ '7').take most

/-- The code points of an escape, read behind its backslash, and the place behind it. -/
def escape? (c : Cursor) : Option (List Nat × Cursor) :=
  match c.rest with
  | [] => none
  | 'n' :: _ => some ([10], c.skip 1)
  | 't' :: _ => some ([9], c.skip 1)
  | 'r' :: _ => some ([13], c.skip 1)
  | 'b' :: _ => some ([8], c.skip 1)
  | 'v' :: _ => some ([11], c.skip 1)
  | 'f' :: _ => some ([12], c.skip 1)
  | '\r' :: '\n' :: _ => some ([], c.skip 2)
  | 'x' :: a :: b :: _ => do some ([← hexValue? [a, b]], c.skip 3)
  | 'x' :: _ => none
  | 'u' :: _ => do
    let (n, behind) ← unicodeEscape? (c.skip 1)
    some ([n], behind)
  | ch :: _ =>
    if isLineTerminator ch then some ([], c.skip 1)
    else if '0' ≤ ch && ch ≤ '7' then
      let digits := octalDigits (if ch ≤ '3' then 3 else 2) c.rest
      some ([digits.foldl (fun n d => 8 * n + (d.toNat - '0'.toNat)) 0], c.skip digits.length)
    else some ([ch.toNat], c.skip 1)

/-- Two halves of a surrogate pair become the code point that they encode. -/
def joinSurrogates : List Nat → List Nat
  | hi :: lo :: rest =>
    if 0xD800 ≤ hi && hi ≤ 0xDBFF && 0xDC00 ≤ lo && lo ≤ 0xDFFF then
      (0x10000 + (hi - 0xD800) * 0x400 + (lo - 0xDC00)) :: joinSurrogates rest
    else hi :: joinSurrogates (lo :: rest)
  | rest => rest

/-- The rest of a string: its code points, the place behind its quote, the first escape that is
none; nothing if it does not end. `fuel` bounds the number of characters. -/
def scanStringBody (quote : Char) :
    Nat → List Nat → Option Nat → Cursor → Option (List Nat × Option Nat × Cursor)
  | 0, _, _, _ => none
  | fuel + 1, acc, bad?, c =>
    match c.rest with
    | [] => none
    | '\\' :: _ =>
      match escape? (c.skip 1) with
      | some (points, behind) => scanStringBody quote fuel (points.reverse ++ acc) bad? behind
      | none =>
        if (c.skip 1).rest.isEmpty then none
        else scanStringBody quote fuel acc (bad?.or (some c.offset)) (c.skip 2)
    | ch :: _ =>
      if ch == quote then some (acc, bad?, c.skip 1)
      else if ch == '\n' || ch == '\r' then none
      else scanStringBody quote fuel (ch.toNat :: acc) bad? (c.skip 1)

/-- A string, at its quote. -/
def scanString (quote : Char) (c : Cursor) : Scanned :=
  match scanStringBody quote (c.rest.length + 1) [] none (c.skip 1) with
  | none =>
    let behind := ((c.skip 1).takeWhile fun ch => ch != '\n' && ch != '\r').2
    .refused behind .unterminatedString c.offset
  | some (points, bad?, behind) =>
    let raw := (c.skip 1).rest.take ((c.skip 1).rest.length - behind.rest.length - 1)
    ⟨.string, raw, behind, joinSurrogates points.reverse, false,
      bad?.map (.pointing .invalidEscape)⟩

/-- An escape that a template may not hold, read behind its backslash. -/
def isBadTemplateEscape (c : Cursor) : Bool :=
  match c.rest with
  | '0' :: d :: _ => Text.isDecimal d
  | '0' :: [] => false
  | ch :: _ => Text.isDecimal ch || (escape? c).isNone
  | [] => false

/-- The rest of a template part: its source, last character first, whether it ends the template,
the place behind it, whether an escape is none. `fuel` bounds the number of characters. -/
def scanTemplateBody :
    Nat → List Char → Bool → Cursor → Option (List Char × Bool × Bool × Cursor)
  | 0, _, _, _ => none
  | fuel + 1, acc, bad, c =>
    match c.rest with
    | [] => none
    | '`' :: _ => some (acc, true, bad, c.skip 1)
    | '$' :: '{' :: _ => some (acc, false, bad, c.skip 2)
    | '\r' :: '\n' :: _ => scanTemplateBody fuel ('\n' :: acc) bad (c.skip 2)
    | '\r' :: _ => scanTemplateBody fuel ('\n' :: acc) bad (c.skip 1)
    | '\\' :: '\r' :: _ => scanTemplateBody fuel ('\\' :: acc) bad (c.skip 1)
    | '\\' :: ch :: _ =>
      scanTemplateBody fuel (ch :: '\\' :: acc) (bad || isBadTemplateEscape (c.skip 1)) (c.skip 2)
    | ch :: _ => scanTemplateBody fuel (ch :: acc) bad (c.skip 1)

/-- A template part, at the backtick that opens the template or at the brace that closes a
substitution. A part with a bad escape is marked as escaped. -/
def scanTemplate (opening : Bool) (c : Cursor) : Scanned :=
  match scanTemplateBody (c.rest.length + 1) [] false (c.skip 1) with
  | none => .refused ⟨[], c.offset + Text.byteLength c.rest⟩ .unterminatedString c.offset
  | some (raw, ends, bad, behind) =>
    let kind : Token.Kind :=
      match opening, ends with
      | true, true => .wholeTemplate
      | true, false => .templateHead
      | false, true => .templateTail
      | false, false => .templateMiddle
    ⟨kind, raw.reverse, behind, [], bad, none⟩

/-- The rest of a regular expression's pattern, last character first, and the place behind the
slash that ends it. -/
def scanPattern : Bool → List Char → Nat → List Char → Option (List Char × Cursor)
  | _, _, _, [] => none
  | inBrackets, acc, n, '\\' :: ch :: cs =>
    if isLineTerminator ch then none
    else scanPattern inBrackets (ch :: '\\' :: acc) (n + 1 + ch.utf8Size) cs
  | inBrackets, acc, n, ch :: cs =>
    if isLineTerminator ch then none
    else if ch == '/' && !inBrackets then some (acc, ⟨cs, n + 1⟩)
    else
      let inBrackets := if ch == '[' then true else if ch == ']' then false else inBrackets
      scanPattern inBrackets (ch :: acc) (n + ch.utf8Size) cs

/-- What is wrong with the flags of a regular expression, the first of which is at `offset`. -/
def flagReport : List Char → Nat → List Char → Option Report
  | seen, offset, [] =>
    if seen.contains 'u' && seen.contains 'v' then
      some (.pointing .clashingRegularExpressionFlags offset)
    else none
  | seen, offset, ch :: cs =>
    if !(['g', 'i', 'm', 's', 'u', 'y', 'd', 'v'].contains ch) then
      some (.pointing (.regularExpressionFlag ch) offset)
    else if seen.contains ch then some (.pointing (.repeatedRegularExpressionFlag ch) offset)
    else flagReport (ch :: seen) (offset + ch.utf8Size) cs

/-- A character that is read as a flag. -/
def isFlag (c : Char) : Bool := c.isAlphanum || c == '$' || c == '_'

/-- A regular expression, at the slash that opens it; its text is what stands between the slashes
and its flags, with the slash between them. -/
def scanRegularExpression (c : Cursor) : Scanned :=
  match scanPattern false [] (c.offset + 1) (c.skip 1).rest with
  | none =>
    let behind := (c.takeWhile fun ch => !isLineTerminator ch).2
    .refused behind .unterminatedRegularExpression c.offset
  | some (pattern, behind) =>
    let (flags, afterFlags) := behind.takeWhile isFlag
    let text := '/' :: pattern.reverse ++ '/' :: flags
    ⟨.regularExpression, text, afterFlags, [], false, flagReport [] behind.offset flags⟩

end LivePreview.Script
