import LivePreview.Console.Journal
import LivePreview.Guard.Registry
import LivePreview.Preview.Scheduler
import LivePreview.Preview.Slot
import LivePreview.Rendering
import LivePreview.Settings.Basic

/-!
# Preview sessions

1. A session keeps one document's preview up to date: changes arm the scheduler's timer, and a poll
   that finds it due runs a cycle.
2. A cycle reads the document, renders it under the guard in force and installs the page. Where
   there is no document, the live artifact stays.
3. Closing a session takes the live artifact back; nothing is rendered after that.
-/

namespace LivePreview.Preview

open Console (Journal)
open Guard (Guards LoopGuard)

/-- What a cycle came to. -/
inductive Outcome where
  | rendered (location : String)
  /-- The page shows why the script could not be transformed. -/
  | diagnostic (location message : String)
  /-- There was no document. -/
  | skipped
  | surfaceFailed (message : String)
deriving DecidableEq, Repr

/-- The outcome of a page at a place. -/
def Outcome.ofRendered (page : Rendered) (location : String) : Outcome :=
  match page.error? with
  | none => .rendered location
  | some e => .diagnostic location e.message

/-- What a session works with. -/
structure Stage (m : Type → Type) where
  engine : Engine
  surface : Surface m
  /-- The text of the document, if there is one. -/
  document : m (Option String)

/-- The preview of one document. -/
structure Session where
  scheduler : Scheduler
  slot : Slot
  settings : Settings
  /-- The guard that was answered for the settings' budget. -/
  guard : LoopGuard
  /-- Cycles that have run. -/
  cycles : Nat
  /-- What the last cycle came to. -/
  last : Option Outcome
deriving DecidableEq, Repr

namespace Session

/-- The topic of notes on previews. -/
def topic : String := "preview"

variable {m : Type → Type} [Monad m]

/-- A session that has not rendered yet. -/
def start [Guards m] (settings : Settings) : m Session := do
  let guard ← Guards.guard settings.budget
  return ⟨.start settings.debounce settings.saveOnly, .empty, settings, guard, 0, none⟩

/-- No cycle will ever run. -/
def isClosed (s : Session) : Bool := s.scheduler.isClosed

/-- Reads, renders and installs the document. -/
def cycle [Journal m] (stage : Stage m) (s : Session) : m (Outcome × Slot) := do
  match ← stage.document with
  | none =>
    Journal.detail topic "no active document, skipping"
    return (.skipped, s.slot)
  | some text =>
    let page := render stage.engine s.guard text.toList
    let (installed, slot) ← s.slot.install stage.surface page.page
    match installed with
    | .ok artifact => return (.ofRendered page artifact.location, slot)
    | .error e => return (.surfaceFailed e.message, slot)

/-- Runs a cycle if one is due; answers what it came to. -/
def poll [Journal m] (stage : Stage m) (now : Int) (s : Session) :
    m (Option Outcome × Session) := do
  let (due, scheduler) := s.scheduler.beginIfDue now
  if due then
    let (outcome, slot) ← s.cycle stage
    return (some outcome,
      { s with
        scheduler := scheduler.finish now
        slot := slot
        cycles := s.cycles + 1
        last := some outcome })
  else return (none, s)

/-- The preview is opened: renders at once. -/
def activate [Journal m] (stage : Stage m) (now : Int) (s : Session) : m Session := do
  let (_, s) ← { s with scheduler := s.scheduler.scheduleNow now }.poll stage now
  return s

/-- The document has changed. -/
def change [Journal m] (change : Change) (now : Int) (s : Session) : m Session := do
  let (counts, scheduler) := s.scheduler.notify change now
  if counts then Journal.detail topic (change.label ++ " scheduled render")
  return { s with scheduler := scheduler }

/-- The preview is closed: takes the live artifact back for good. -/
def close (stage : Stage m) (s : Session) : m Session := do
  let slot ← s.slot.clear stage.surface
  return { s with slot := slot, scheduler := s.scheduler.close }

/-- Puts settings in force. -/
def apply [Guards m] (settings : Settings) (s : Session) : m Session := do
  let guard ←
    if settings.budget = s.guard.budget then pure s.guard
    else Guards.guard settings.budget
  return { s with
    guard := guard
    scheduler := s.scheduler.reconfigure settings.debounce settings.saveOnly
    settings := settings }

end Session

end LivePreview.Preview
