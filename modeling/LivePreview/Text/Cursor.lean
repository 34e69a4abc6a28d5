import LivePreview.Text.Bytes

/-!
# A place in a text

A cursor holds what is left of a text and the byte it starts at.
-/

namespace LivePreview.Text

/-- What is left of a source and the byte at which it starts. -/
structure Cursor where
  rest : List Char
  offset : Nat
deriving DecidableEq, Repr

namespace Cursor

/-- The start of a source. -/
def start (source : List Char) : Cursor := ⟨source, 0⟩

/-- The place behind the next `n` characters. -/
def skip : Nat → Cursor → Cursor
  | 0, c => c
  | _ + 1, ⟨[], n⟩ => ⟨[], n⟩
  | k + 1, ⟨c :: cs, n⟩ => skip k ⟨cs, n + c.utf8Size⟩

/-- The next character. -/
def peek (c : Cursor) : Option Char := c.rest.head?

/-- The next character is `ch`. -/
def sees (c : Cursor) (ch : Char) : Bool := c.rest.head? == some ch

/-- The longest run of characters with a property, and the place behind it. -/
def takeWhile (p : Char → Bool) (c : Cursor) : List Char × Cursor :=
  let taken := c.rest.takeWhile p
  (taken, ⟨c.rest.dropWhile p, c.offset + Text.byteLength taken⟩)

end Cursor

end LivePreview.Text
