/-!
# Scheduling renders

1. A change schedules a render at the end of the debounce window, and the next change starts the
   window again. In save-only mode only saves count, and they do not wait.
2. There is one timer. A change that comes while a render runs is remembered, however many there
   are, and arms the timer when the render ends.
3. Time is told by the caller, in milliseconds from some origin.
-/

namespace LivePreview.Preview

/-- A change of the document. -/
inductive Change where
  | edit
  | save
deriving DecidableEq, Repr

/-- The name of a change in notes. -/
def Change.label : Change → String
  | edit => "edit"
  | save => "save"

/-- What a scheduler is up to. -/
inductive Phase where
  | idle
  /-- A render is to begin at the deadline. -/
  | scheduled (deadline : Int)
  /-- A render runs; `pending` tells that it is to be followed by another. -/
  | rendering (pending : Bool)
  | closed
deriving DecidableEq, Repr

/-- The timer and the policy that arms it. -/
structure Scheduler where
  phase : Phase
  debounce : Nat
  saveOnly : Bool
deriving DecidableEq, Repr

namespace Scheduler

/-- A scheduler that has nothing to do yet. -/
def start (debounce : Nat) (saveOnly : Bool) : Scheduler := ⟨.idle, debounce, saveOnly⟩

/-- No render will ever begin. -/
def isClosed (s : Scheduler) : Bool := s.phase == .closed

/-- A change that counts under the policy. -/
def accepts (s : Scheduler) (change : Change) : Bool := !s.saveOnly || change == .save

/-- How long a change waits for the next one. -/
def delay (s : Scheduler) : Nat := if s.saveOnly then 0 else s.debounce

/-- When the armed timer goes off. -/
def deadline? (s : Scheduler) : Option Int :=
  match s.phase with
  | .scheduled deadline => some deadline
  | _ => none

/-- The scheduler with its timer set for a change that comes now. -/
def arm (s : Scheduler) (now : Int) : Scheduler := { s with phase := .scheduled (now + s.delay) }

/-- The scheduler behind a change that counts. -/
def trigger (s : Scheduler) (now : Int) : Scheduler :=
  match s.phase with
  | .closed => s
  | .rendering _ => { s with phase := .rendering true }
  | _ => s.arm now

/-- A change comes; tells whether it counts. -/
def notify (s : Scheduler) (change : Change) (now : Int) : Bool × Scheduler :=
  if s.isClosed || !s.accepts change then (false, s) else (true, s.trigger now)

/-- A render is wanted right now. -/
def scheduleNow (s : Scheduler) (now : Int) : Scheduler :=
  match s.phase with
  | .closed => s
  | .rendering _ => { s with phase := .rendering true }
  | _ => { s with phase := .scheduled now }

/-- A render begins if the deadline has come; tells whether it does. -/
def beginIfDue (s : Scheduler) (now : Int) : Bool × Scheduler :=
  match s.phase with
  | .scheduled deadline =>
    if deadline ≤ now then (true, { s with phase := .rendering false }) else (false, s)
  | _ => (false, s)

/-- The render that runs ends. -/
def finish (s : Scheduler) (now : Int) : Scheduler :=
  match s.phase with
  | .rendering true => s.arm now
  | .rendering false => { s with phase := .idle }
  | _ => s

/-- The policy changes; an armed timer keeps its deadline. -/
def reconfigure (s : Scheduler) (debounce : Nat) (saveOnly : Bool) : Scheduler :=
  ⟨s.phase, debounce, saveOnly⟩

/-- Ends it all. -/
def close (s : Scheduler) : Scheduler := { s with phase := .closed }

end Scheduler

end LivePreview.Preview
