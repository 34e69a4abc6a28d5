import LivePreview.Console.Note
import LivePreview.Text.Lines

/-!
# The status block

A block of lines reports how the last cycle went. Only the newest report stays on screen: the
cursor goes up by the height of the block before and clears what is below.
-/

namespace LivePreview.Console

/-- How well a cycle went. -/
inductive Severity where
  | success
  | failure
  | warning
deriving DecidableEq, Repr

/-- The sign of a severity. -/
def Severity.symbol : Severity → String
  | success => colored .green "✓"
  | failure => colored .red "✗"
  | warning => colored .yellow "⚠"

/-- A report on a cycle. -/
structure Report where
  severity : Severity
  summary : String
  /-- Lines below the summary; empty for none. -/
  detail : String
deriving DecidableEq, Repr

/-- A summary with its detail below. -/
def compose (summary detail : String) : String :=
  if detail.isEmpty then summary else summary ++ "\n" ++ detail

/-- The text of a report, without its stamp. -/
def Report.body (r : Report) : String := compose r.summary r.detail

/-- The rows that a report takes. -/
def Report.height (r : Report) : Nat := max (Text.lineCount r.body.toList) 1

/-- What is known of the block on screen. -/
structure Board where
  /-- The height of the block on screen; 0 before the first report. -/
  height : Nat
  /-- Reports so far. -/
  count : Nat
deriving DecidableEq, Repr

namespace Board

/-- No report yet. -/
def empty : Board := ⟨0, 0⟩

/-- The most rows that the cursor goes up at once. -/
def maxRise : Nat := 65535

/-- The sequences that take the block on screen away. -/
def clear (b : Board) : String :=
  if b.height == 0 then ""
  else "\x1b[" ++ String.ofList (Text.decimal (min b.height maxRise)) ++ "A\x1b[J"

/-- The block of a report at a time of day, without what it takes away. -/
def block (b : Board) (clock : String) (r : Report) : String :=
  dim ("[" ++ clock ++ " #" ++ String.ofList (Text.decimal (b.count + 1)) ++ "]") ++ " " ++
    r.severity.symbol ++ " " ++ r.body ++ "\n"

/-- What is printed for a report at a time of day. -/
def shown (b : Board) (clock : String) (r : Report) : String := b.clear ++ b.block clock r

/-- The board once a report is on screen. -/
def next (b : Board) (r : Report) : Board := ⟨r.height, b.count + 1⟩

end Board

/-- The time of day, of seconds since midnight of some day. -/
def clock (seconds : Nat) : String :=
  let two (n : Nat) : String := String.ofList (Text.fixedDigits 10 2 n)
  two (seconds / 3600 % 24) ++ ":" ++ two (seconds / 60 % 60) ++ ":" ++ two (seconds % 60)

end LivePreview.Console
