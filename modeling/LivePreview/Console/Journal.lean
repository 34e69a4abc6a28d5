import LivePreview.Console.Status

/-!
# The journal

What a run of the program says, in order: notes, reports and output. How it is printed depends on
whether details are wanted and on the time of day.
-/

namespace LivePreview.Console

/-- One thing said. -/
inductive Entry where
  | note (n : Note)
  | report (r : Report)
  /-- A text as it is, that was asked for. -/
  | output (text : String)
deriving DecidableEq, Repr

/-- A monad in which things are said. -/
class Journal (m : Type → Type) where
  /-- Says one thing. -/
  say : Entry → m Unit

instance {σ : Type} {m : Type → Type} [Monad m] [Journal m] : Journal (StateT σ m) where
  say e := StateT.lift (Journal.say e)

namespace Journal

variable {m : Type → Type} [Journal m]

/-- Writes a note. -/
def note (topic text : String) : m Unit := say (.note ⟨topic, text, false⟩)

/-- Writes a note that is shown only on request. -/
def detail (topic text : String) : m Unit := say (.note ⟨topic, text, true⟩)

/-- Reports on a cycle. -/
def report (severity : Severity) (summary detail : String) : m Unit :=
  say (.report ⟨severity, summary, detail⟩)

end Journal

namespace Entry

/-- What is printed for one thing said, and the board behind it. -/
def shown (verbose : Bool) (clock : String) (board : Board) : Entry → String × Board
  | .note n => (n.shown verbose, board)
  | .report r => (board.shown clock r, board.next r)
  | .output text => (text, board)

end Entry

/-- What is printed for a journal, and the board behind it. -/
def print (verbose : Bool) (clock : String) : Board → List Entry → String × Board
  | board, [] => ("", board)
  | board, e :: es =>
    let (text, board) := e.shown verbose clock board
    let (rest, board) := print verbose clock board es
    (text ++ rest, board)

end LivePreview.Console
