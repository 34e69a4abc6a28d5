import LivePreview.Duration
import LivePreview.Guard.Insertion
import LivePreview.Guard.Outline
import LivePreview.Text.Lines
import LivePreview.Text.Numeral

/-!
# The loop guard

A guarded loop notes the time before it starts and compares it at the start of each round: past the
budget it throws.

1. Visiting an outline numbers its loops in the order of the source and notes what each needs: its
   wrapper, put around the loop together with all its labels, and its check, put into its body.
2. `instrument` splices what has been noted into the source.
-/

namespace LivePreview.Guard

open Script (Span)

/-- The time that a loop may take. -/
structure LoopGuard where
  budget : Duration
deriving DecidableEq, Repr

namespace LoopGuard

/-- The guard of so many milliseconds. -/
def ofMilliseconds (n : Nat) : LoopGuard := ⟨.ofMilliseconds n⟩

/-- The whole milliseconds of the budget. -/
def milliseconds (guard : LoopGuard) : Nat := guard.budget.milliseconds

@[simp] theorem milliseconds_ofMilliseconds (n : Nat) : (ofMilliseconds n).milliseconds = n :=
  Duration.milliseconds_ofMilliseconds n

end LoopGuard

/-- The variable that notes when loop `seq` started. -/
def bindingName (seq : Nat) : List Char := "__loopGuard".toList ++ Text.decimal seq

/-- What precedes loop `seq`. -/
def opening (seq : Nat) : List Char :=
  "\x7blet ".toList ++ bindingName seq ++ " = Date.now();".toList

/-- What loop `seq`, which starts on `line`, does first in each round. -/
def LoopGuard.check (guard : LoopGuard) (seq line : Nat) : List Char :=
  "if (Date.now() - ".toList ++ bindingName seq ++ " > ".toList ++
    Text.decimal guard.milliseconds ++
    ") \x7b throw new Error(\"Infinite loop detected on line ".toList ++ Text.decimal line ++
    "\"); \x7d".toList

/-- What has been noted while visiting an outline. -/
structure Plan where
  /-- For each labelled statement, the start of what is labelled and its own start, last first. -/
  labels : List (Nat × Nat)
  /-- Insertions, last first. -/
  insertions : List Insertion
  /-- The number of the next loop. -/
  next : Nat

namespace Plan

/-- Nothing visited yet. -/
def empty : Plan := ⟨[], [], 0⟩

/-- The start of the outermost label in front of `start`; `fuel` bounds the number of labels. -/
def outermost (labels : List (Nat × Nat)) : Nat → Nat → Nat
  | 0, start => start
  | fuel + 1, start =>
    match labels.lookup start with
    | some before => outermost labels fuel before
    | none => start

/-- Notes a loop. -/
def addLoop (guard : LoopGuard) (source : List Char) (span body : Span) (isBlock : Bool)
    (plan : Plan) : Plan :=
  let seq := plan.next
  let start := outermost plan.labels plan.labels.length span.start
  let check := guard.check seq (Text.lineOf source span.start)
  let wrapper : List Insertion :=
    [⟨start, .open, seq, 0, opening seq⟩, ⟨span.stop, .close, seq, 1, ['\x7d']⟩]
  let inner : List Insertion :=
    if isBlock then [⟨body.start + 1, .open, seq, 1, check⟩]
    else [⟨body.start, .open, seq, 1, '\x7b' :: check⟩, ⟨body.stop, .close, seq, 0, ['\x7d']⟩]
  { plan with
    insertions := inner.reverse ++ wrapper.reverse ++ plan.insertions, next := seq + 1 }

/-- Visits a landmark. -/
def visit (guard : LoopGuard) (source : List Char) (plan : Plan) : Landmark → Plan
  | .loop span body isBlock => plan.addLoop guard source span body isBlock
  | .labelled span bodyStart => { plan with labels := (bodyStart, span.start) :: plan.labels }

end Plan

/-- The source with each loop of its outline guarded. -/
def LoopGuard.instrument (guard : LoopGuard) (source : List Char) (outline : List Landmark) :
    List Char :=
  splice source (outline.foldl (Plan.visit guard source) .empty).insertions.reverse

end LivePreview.Guard
