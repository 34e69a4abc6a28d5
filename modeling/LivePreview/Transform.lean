import LivePreview.Guard.Plan
import LivePreview.Script.Erasure
import LivePreview.Script.Parser
import LivePreview.Script.Printer
import LivePreview.Text.Blank

/-!
# Transforming scripts

An engine turns a typed script into one that runs, with a loop guard put in. It may have no answer,
which counts as an empty script, and it may fail; a blank script never reaches it.

What is done with an engine is said for engines that act in a monad (`EngineIn`); an `Engine` is one
that only answers.
-/

namespace LivePreview

/-- Why an engine has no script to give. -/
inductive EngineError where
  /-- The source is no script; `line` is where that shows. -/
  | invalid (message : String) (line : Option Nat)
  /-- Something else went wrong. -/
  | failed (message : String)
deriving DecidableEq, Repr

namespace EngineError

/-- The error of a source that the parser refuses. -/
def ofReport (source : List Char) (report : Script.Report) : EngineError :=
  .invalid report.diagnostic.message (report.place.map (Text.lineOf source))

/-- The message shown for an error. -/
def message : EngineError → String
  | invalid message none => "Transformation failed: " ++ message
  | invalid message (some line) =>
    "Transformation failed: " ++ message ++ " (line " ++ String.ofList (Text.decimal line) ++ ")"
  | failed message => "Transformation failed: " ++ message

end EngineError

/-- The guarded source of a typed script, still with its types. -/
def instrument (guard : Guard.LoopGuard) (source : List Char) : Except EngineError (List Char) :=
  match Script.parse source with
  | .error report => .error (.ofReport source report)
  | .ok program => .ok (guard.instrument source (Guard.outline (program.body ++ program.types)))

/-- What turns a typed script into one that runs. Having no answer is no failure. -/
abbrev Engine := Guard.LoopGuard → List Char → Except EngineError (Option (List Char))

/-- Guards the loops of a script, reads it again, takes the types out and prints it. -/
def Engine.typed : Engine := fun guard source =>
  match instrument guard source with
  | .error e => .error e
  | .ok guarded =>
    match Script.parse guarded with
    | .error report =>
      .error (.failed ("loop guard produced invalid source: " ++ report.diagnostic.message))
    | .ok program =>
      match program.erase with
      | .error cause => .error (.failed cause)
      | .ok body => .ok (some (program.print body).toList)

/-- An engine that acts in a monad. -/
abbrev EngineIn (m : Type → Type) :=
  Guard.LoopGuard → List Char → m (Except EngineError (Option (List Char)))

/-- An engine that only answers, among those that act. -/
def Engine.within (m : Type → Type) [Monad m] (engine : Engine) : EngineIn m :=
  fun guard source => pure (engine guard source)

/-- The script that an engine makes of a source. A blank source makes an empty script, and so does
an engine that has no answer. -/
def transformIn {m : Type → Type} [Monad m] (engine : EngineIn m) (guard : Guard.LoopGuard)
    (source : List Char) : m (Except EngineError (List Char)) := do
  if Text.isAllBlank source then return .ok []
  let answer ← engine guard source
  return answer.map (·.getD [])

/-- The script that an engine makes of a source. -/
def transform (engine : Engine) (guard : Guard.LoopGuard) (source : List Char) :
    Except EngineError (List Char) :=
  Id.run (transformIn (engine.within Id) guard source)

end LivePreview
