import LivePreview.Script.Lexer.Cursor

/-!
# Names

A name is a run of name characters; any of them may be written as a Unicode escape.
-/

namespace LivePreview.Script

open Text (Cursor)

/-- The value of hexadecimal digits, if all of them are. -/
def hexValue? (cs : List Char) : Option Nat :=
  cs.foldl (fun acc c => do pure (16 * (← acc) + (← Text.digitValue? c))) (some 0)

/-- The code point of a Unicode escape, read behind `\u`: four hexadecimal digits, or any number
of them in braces up to the last code point. -/
def unicodeEscape? (c : Cursor) : Option (Nat × Cursor) :=
  if c.sees '{' then
    let (digits, behind) := (c.skip 1).takeWhile fun ch => (Text.digitValue? ch).isSome
    if digits.isEmpty || !behind.sees '}' then none
    else do
      let n ← hexValue? digits
      if n ≤ 0x10FFFF then some (n, behind.skip 1) else none
  else
    let digits := c.rest.take 4
    if digits.length < 4 then none else do
      let n ← hexValue? digits
      some (n, c.skip 4)

/-- The rest of a name that holds escapes: its characters, last first, and the place behind it,
or the report on an escape that is none. `fuel` bounds the number of characters. -/
def scanEscapedName : Nat → Bool → List Char → Cursor → Except Report (List Char × Cursor)
  | 0, _, acc, c => .ok (acc, c)
  | fuel + 1, isFirst, acc, c =>
    match c.rest with
    | '\\' :: 'u' :: _ =>
      match unicodeEscape? (c.skip 2) with
      | some (n, behind) =>
        let ch := Char.ofNat n
        if !n.isValidChar then .error (.pointing .invalidUnicodeEscape c.offset)
        else if if isFirst then Text.isNameStart ch else Text.isNamePart ch then
          scanEscapedName fuel false (ch :: acc) behind
        else .error (.pointing (.invalidCharacter ch) c.offset)
      | none => .error (.pointing .invalidUnicodeEscape c.offset)
    | '\\' :: _ => .error (.pointing .invalidUnicodeEscape c.offset)
    | ch :: _ =>
      if Text.isNamePart ch then scanEscapedName fuel false (ch :: acc) (c.skip 1)
      else .ok (acc, c)
    | [] => .ok (acc, c)

/-- A name, at a character that starts one or at a backslash. -/
def scanName (kind : Token.Kind) (c : Cursor) : Scanned :=
  let (plain, behind) := c.takeWhile Text.isNamePart
  if behind.sees '\\' then
    match scanEscapedName (behind.rest.length + 1) plain.isEmpty plain.reverse behind with
    | .ok (name, behind) => ⟨kind, name.reverse, behind, [], true, none⟩
    | .error report =>
      let after := ((behind.skip 1).takeWhile fun ch => Text.isNamePart ch || ch == '\\').2
      ⟨.unknown, [], after, [], false, some report⟩
  else .plain kind plain behind

end LivePreview.Script
