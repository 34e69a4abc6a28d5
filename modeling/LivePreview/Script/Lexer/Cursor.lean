import LivePreview.Script.Diagnostic
import LivePreview.Script.Token
import LivePreview.Text.Cursor
import LivePreview.Text.Identifier
import LivePreview.Text.Numeral

/-!
# Scanned tokens

The characters that separate tokens, and a token as a scanner reads it: scanners take a cursor and
answer with what they read and the cursor behind it.
-/

namespace LivePreview.Script

open Text (Cursor)

/-- A character that ends a line of a script. -/
def isLineTerminator (c : Char) : Bool :=
  c == '\n' || c == '\r' || c == '\u2028' || c == '\u2029'

/-- A character that separates tokens and does not end a line. -/
def isScriptSpace (c : Char) : Bool :=
  let n := c.toNat
  n == 9 || n == 11 || n == 12 || n == 32 || n == 0x85 || n == 0xA0 || n == 0x1680 ||
    (0x2000 ≤ n && n ≤ 0x200B) || n == 0x202F || n == 0x205F || n == 0x3000 ||
    n == 0xFEFF

/-- A token as a scanner reads it, before its place among the others is known. -/
structure Scanned where
  kind : Token.Kind
  text : List Char
  cursor : Cursor
  value : List Nat
  escaped : Bool
  report? : Option Report

/-- A scanned token with nothing remarkable about it. -/
def Scanned.plain (kind : Token.Kind) (text : List Char) (cursor : Cursor) : Scanned :=
  ⟨kind, text, cursor, [], false, none⟩

/-- A token that could not be read, and why. -/
def Scanned.refused (cursor : Cursor) (diagnostic : Diagnostic) (offset : Nat) : Scanned :=
  ⟨.unknown, [], cursor, [], false, some (.pointing diagnostic offset)⟩

/-- The report on a character that cannot stand at a place, or on the end of the source. -/
def unexpectedAt (c : Cursor) : Report :=
  match c.peek with
  | some ch => .pointing (.invalidCharacter ch) c.offset
  | none => .pointing .unexpectedEnd c.offset

end LivePreview.Script
