/-!
# Blank characters

The Unicode property White_Space, and trimming by it.

1. `trim` removes the longest blank ends; what is left starts and ends with a character that is
   not blank, or is empty.
2. A text is blank when it trims to nothing.
-/

namespace LivePreview.Text

/-- The characters with the property White_Space. -/
def isBlank (c : Char) : Bool :=
  let n := c.toNat
  (9 ≤ n && n ≤ 13) || n == 32 || n == 0x85 || n == 0xA0 || n == 0x1680 ||
    (0x2000 ≤ n && n ≤ 0x200A) || n == 0x2028 || n == 0x2029 || n == 0x202F || n == 0x205F ||
    n == 0x3000

/-- The text without its trailing blank characters. -/
def trimRight (cs : List Char) : List Char := (cs.reverse.dropWhile isBlank).reverse

/-- The text without its leading and trailing blank characters. -/
def trim (cs : List Char) : List Char := trimRight (cs.dropWhile isBlank)

/-- Nothing but blank characters. -/
def isAllBlank (cs : List Char) : Bool := (trim cs).isEmpty

end LivePreview.Text
