import LivePreview.Preview.Document
import LivePreview.Settings.Handle
import LivePreview.Watch.Targets

/-!
# The preview loop

1. A turn waits for a signal, no longer than until the session's deadline, and handles it; then,
   unless the program is closing, it polls the session and reports on the cycle that ran.
2. A run renders at once, takes turns until the program is closing, and closes the session. Signals
   are handled in the order they come.
3. When the settings file has changed it is loaded again; what cannot be loaded is reported, and the
   settings in force stay.
-/

namespace LivePreview.Watch

open Console (Journal Note)
open Guard (Guards)
open Preview (Outcome Session Stage)
open Settings (Handle Layer)

/-- What the loop learns from outside. -/
structure Outside (m : Type → Type) where
  /-- The time, in milliseconds from some origin. -/
  now : m Int
  /-- Waits for a signal, for so many milliseconds at most. -/
  receive : Nat → m (Option Signal)
  /-- The program is closing. -/
  closing : m Bool

/-- What is previewed, and how. -/
structure Subject (m : Type → Type) where
  stage : Stage m
  /-- The name of the document in reports. -/
  name : String
  settingsPath : String
  /-- What the command line says of the settings. -/
  overrides : Layer

/-- The session, and the settings in force. -/
structure State where
  session : Session
  handle : Handle
deriving DecidableEq, Repr

/-- The longest wait, in milliseconds, so that closing is noticed soon. -/
def longestWait : Nat := 100

/-- How long to wait at a time: until the deadline, if there is one. -/
def waitFor (deadline : Option Int) (now : Int) : Nat :=
  match deadline with
  | none => longestWait
  | some deadline => min (deadline - now).toNat longestWait

variable {m : Type → Type} [Monad m] [Journal m]

/-- Reports what a cycle came to. -/
def report (name : String) : Outcome → m Unit
  | .rendered location => Journal.report .success (name ++ " → " ++ location) ""
  | .diagnostic _ message => Journal.report .failure (name ++ ": transform failed") message
  | .skipped => Journal.report .warning (name ++ " not found, preview unchanged") ""
  | .surfaceFailed message => Journal.report .failure "preview not updated" message

/-- Reports on the last cycle, if any has run. -/
def reportLast (name : String) (s : Session) : m Unit :=
  match s.last with
  | none => return ()
  | some outcome => report name outcome

/-- Loads the settings file again. -/
def reload [Files m] [Guards m] (p : Subject m) (s : State) : m State := do
  let content ← Files.read p.settingsPath
  let (loaded, handle) := s.handle.reload p.settingsPath p.overrides content
  match loaded with
  | .ok none => return ⟨s.session, handle⟩
  | .ok (some (settings, notes)) =>
    notes.forM fun n => Journal.say (.note n)
    Journal.note "config" ("reloaded " ++ p.settingsPath)
    return ⟨← s.session.apply settings, handle⟩
  | .error e =>
    Journal.report .failure "settings not reloaded" (e.message ++ ": " ++ e.cause)
    return ⟨s.session, handle⟩

/-- Handles a signal. -/
def onSignal [Files m] [Guards m] (p : Subject m) (outside : Outside m) (s : State) :
    Signal → m State
  | .changed change => do
    let now ← outside.now
    return { s with session := ← s.session.change change now }
  | .settingsChanged => reload p s

/-- Handles a signal if one has come. -/
def onAny [Files m] [Guards m] (p : Subject m) (outside : Outside m) (s : State) :
    Option Signal → m State
  | none => return s
  | some signal => onSignal p outside s signal

/-- Takes a turn; tells whether there is to be another. -/
def turn [Files m] [Guards m] (p : Subject m) (outside : Outside m) (s : State) :
    m (Bool × State) := do
  let now ← outside.now
  let signal ← outside.receive (waitFor s.session.scheduler.deadline? now)
  let s ← onAny p outside s signal
  if ← outside.closing then
    Journal.detail Session.topic "shutdown signal received"
    return (false, s)
  else
    let now ← outside.now
    let (outcome, session) ← s.session.poll p.stage now
    if outcome.isSome then reportLast p.name session
    return (true, { s with session := session })

/-- Starts a session under the settings in force and renders at once. -/
def start [Guards m] (p : Subject m) (outside : Outside m) (handle : Handle) : m State := do
  let session ← Session.start handle.current
  let now ← outside.now
  let session ← session.activate p.stage now
  reportLast p.name session
  return ⟨session, handle⟩

/-- Closes the session. -/
def finish (p : Subject m) (s : State) : m State :=
  return { s with session := ← s.session.close p.stage }

/-- Takes turns, so many at most; tells whether the program was closing. -/
def turns [Files m] [Guards m] (p : Subject m) (outside : Outside m) :
    Nat → State → m (Bool × State)
  | 0, s => return (false, s)
  | n + 1, s => do
    let (more, s) ← turn p outside s
    if more then turns p outside n s else return (true, s)

/-- A run of so many turns at most; `none` if the program was not closing by then. -/
def run [Files m] [Guards m] (p : Subject m) (outside : Outside m) (limit : Nat) (handle : Handle) :
    m (Option State) := do
  let s ← start p outside handle
  let (closing, s) ← turns p outside limit s
  if closing then return some (← finish p s) else return none

end LivePreview.Watch
