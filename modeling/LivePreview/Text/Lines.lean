import LivePreview.Text.Bytes

/-!
# Lines

Only a line feed ends a line here. `lineOf` is the 1-based line of a byte offset; `lineCount` is
the height of a text on a screen.
-/

namespace LivePreview.Text

/-- The 1-based line of byte `offset`; past the end it is the last line. -/
def lineOf (source : List Char) (offset : Nat) : Nat :=
  (takeBytes offset source).count '\n' + 1

/-- The number of lines of a text; a final line feed does not start another. -/
def lineCount (cs : List Char) : Nat :=
  cs.count '\n' + if cs.getLast?.all (· == '\n') then 0 else 1

/-- The first line of a text. A carriage return before its line feed does not count. -/
def firstLine (cs : List Char) : List Char :=
  let line := cs.takeWhile (· != '\n')
  if line.length < cs.length && line.getLast? == some '\r' then line.dropLast else line

end LivePreview.Text
