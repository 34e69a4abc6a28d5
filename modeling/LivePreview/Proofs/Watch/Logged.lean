import LivePreview.Proofs.Preview.Alike
import LivePreview.Proofs.Preview.Ownership
import LivePreview.Proofs.Recording
import LivePreview.Watch.Loop

/-!
# Loops with a log

The preview loop in arbitrary surroundings, with a log of what it learns and does.

1. The surroundings tell the time, let signals arrive, may change files and the document, and say
   whether the program is closing. Signals that have arrived wait in line until they are received.
2. What a session does in a loop is what it does on its own (`likeness`), so all that is known of
   polls, changes and closings holds here too.
3. One lemma for each operation says all that it can lead to.
-/

namespace LivePreview.Watch

open Console (Journal)
open Files (FileError)
open Guard (Guards)
open Preview (Artifact Balanced Change Cycles Happening Installs Outcome Past Recorded Scheduler
  Session Slot Stage Surface SurfaceError)
open Recording (Leads note)
open Settings (Handle Layer)

/-! ## The log -/

/-- What happens around a loop. -/
inductive Event where
  /-- The clock is read; the text is what the document has come to be. -/
  | told (now : Int) (text : Option String)
  | arrived (signals : List Signal)
  /-- A wait is over, with a signal or without. -/
  | received (signal : Option Signal)
  /-- The answer to whether the program is closing. -/
  | asked (closing : Bool)
  /-- The settings file is read. -/
  | loaded (file : Except FileError ByteArray)
  /-- The session reads the document or asks the surface. -/
  | happened (x : Happening)

/-- What has happened so far, latest first. -/
abbrev Log := List Event

namespace Log

/-- What has happened around the session. -/
def past : Log → Past
  | [] => []
  | .told _ text :: log => .edited text :: past log
  | .happened x :: log => x :: past log
  | _ :: log => past log

/-- The signals that have arrived, in order. -/
def arrivals : Log → List Signal
  | [] => []
  | .arrived signals :: log => arrivals log ++ signals
  | _ :: log => arrivals log

/-- The signals that have not been received yet, in order. -/
def waiting : Log → List Signal
  | [] => []
  | .arrived signals :: log => waiting log ++ signals
  | .received (some _) :: log => (waiting log).tail
  | _ :: log => waiting log

end Log

/-! ## The surroundings -/

/-- Actions in arbitrary surroundings, with a log. -/
abbrev Watched (σ : Type) := Recording Event σ

variable {σ : Type}

/-- What is read is on the log. -/
instance : Files (Watched σ) where
  read path := do
    let file ← (Files.read path : StateT σ (StateM Sandbox) _)
    note (.loaded file)
    return file
  write path bytes := StateT.lift (Files.write path bytes)
  createDirectories path := StateT.lift (Files.createDirectories path)
  remove path := StateT.lift (Files.remove path)
  isFile path := StateT.lift (Files.isFile path)
  isDirectory path := StateT.lift (Files.isDirectory path)

/-- What goes on around a loop. Each of it may change the files, too. -/
structure Surroundings (σ : Type) where
  engine : Engine
  surface : Surface (StateT σ (StateM Sandbox))
  /-- The time, and the text of the document. -/
  now : StateT σ (StateM Sandbox) (Int × Option String)
  /-- The signals that arrive in a wait of so many milliseconds at most. -/
  arrivals : Nat → StateT σ (StateM Sandbox) (List Signal)
  closing : StateT σ (StateM Sandbox) Bool

/-- A surface that logs what it is asked and what it answers. -/
def loggedSurface (surface : Surface (StateT σ (StateM Sandbox))) : Surface (Watched σ) where
  create document := do
    let answer ← (surface.create document : StateT σ (StateM Sandbox) _)
    note (.happened (.created document answer))
    return answer
  display artifact := do
    let answer ← (surface.display artifact : StateT σ (StateM Sandbox) _)
    note (.happened (.displayed artifact answer))
    return answer
  release artifact := do
    (surface.release artifact : StateT σ (StateM Sandbox) _)
    note (.happened (.released artifact))

/-- The document as the log tells of it. -/
def loggedDocument : Watched σ (Option String) := do
  let log : Log ← get
  note (.happened (.read log.past.text))
  return log.past.text

namespace Surroundings

variable (around : Surroundings σ)

def stage : Stage (Watched σ) := ⟨around.engine, loggedSurface around.surface, loggedDocument⟩

/-- The surroundings as a loop learns of them. -/
def outside : Outside (Watched σ) where
  now := do
    let told ← (around.now : StateT σ (StateM Sandbox) _)
    note (.told told.1 told.2)
    return told.1
  receive wait := do
    let signals ← (around.arrivals wait : StateT σ (StateM Sandbox) _)
    note (.arrived signals)
    let log : Log ← get
    note (.received log.waiting.head?)
    return log.waiting.head?
  closing := do
    let closing ← (around.closing : StateT σ (StateM Sandbox) _)
    note (.asked closing)
    return closing

end Surroundings

/-! ## What actions lead to -/

section

variable {around : Surroundings σ} {log log' : Log}

theorem leads_now {now : Int} (h : Leads around.outside.now log now log') :
    ∃ text, log' = .told now text :: log := by
  obtain ⟨told, between, h₁, h⟩ := h.of_bind
  obtain ⟨u, between', h₂, h⟩ := h.of_bind
  obtain ⟨rfl, rfl⟩ := h.of_pure
  exact ⟨told.2, by rw [h₂.of_note, h₁.of_lift]⟩

/-- The signal that has waited longest is received. -/
theorem leads_receive {wait : Nat} {signal : Option Signal}
    (h : Leads (around.outside.receive wait) log signal log') :
    ∃ signals, signal = (log.waiting ++ signals).head? ∧
      log' = .received signal :: .arrived signals :: log := by
  obtain ⟨signals, between, h₁, h⟩ := h.of_bind
  obtain ⟨u, between', h₂, h⟩ := h.of_bind
  obtain ⟨log₁, between'', h₃, h⟩ := h.of_bind
  obtain ⟨u', between''', h₄, h⟩ := h.of_bind
  obtain ⟨rfl, rfl⟩ := h.of_pure
  obtain ⟨rfl, rfl⟩ := h₃.of_get
  rw [h₄.of_note, h₂.of_note, h₁.of_lift]
  exact ⟨signals, rfl, rfl⟩

theorem leads_closing {closing : Bool} (h : Leads around.outside.closing log closing log') :
    log' = .asked closing :: log := by
  obtain ⟨closing, between, h₁, h⟩ := h.of_bind
  obtain ⟨u, between', h₂, h⟩ := h.of_bind
  obtain ⟨rfl, rfl⟩ := h.of_pure
  rw [h₂.of_note, h₁.of_lift]

theorem leads_read {path : String} {file : Except FileError ByteArray}
    (h : Leads (Files.read path : Watched σ _) log file log') : log' = .loaded file :: log := by
  obtain ⟨file, between, h₁, h⟩ := h.of_bind
  obtain ⟨u, between', h₂, h⟩ := h.of_bind
  obtain ⟨rfl, rfl⟩ := h.of_pure
  rw [h₂.of_note, h₁.of_lift]

end

/-! ## Sessions in a loop -/

theorem Log.past_happened (new : Past) (log : Log) :
    Log.past (new.map .happened ++ log) = new ++ log.past := by
  induction new with
  | nil => rfl
  | cons x new ih => exact congrArg (x :: ·) ih

/-- An action logs what another one records. -/
def Logs {α : Type} (act : Watched σ α) (act' : Recorded σ α) : Prop :=
  ∀ (log : Log) s w, ∃ a new s' w', act log s w = (((a, new.map .happened ++ log), s'), w') ∧
    act' log.past s w = (((a, new ++ log.past), s'), w')

namespace Logs

variable {α β : Type}

theorem pure (a : α) : Logs (Pure.pure a : Watched σ α) (Pure.pure a) :=
  fun _ s w => ⟨a, [], s, w, rfl, rfl⟩

theorem bind {act : Watched σ α} {act' : Recorded σ α} {next : α → Watched σ β}
    {next' : α → Recorded σ β} (h : Logs act act') (hnext : ∀ a, Logs (next a) (next' a)) :
    Logs (act >>= next) (act' >>= next') := by
  intro log s w
  obtain ⟨a, new, s', w', h₁, h₂⟩ := h log s w
  obtain ⟨b, new', s'', w'', h₃, h₄⟩ := hnext a (new.map .happened ++ log) s' w'
  refine ⟨b, new' ++ new, s'', w'', ?_, ?_⟩
  · show next (act log s w).1.1.1 (act log s w).1.1.2 (act log s w).1.2 (act log s w).2 = _
    rw [h₁, List.map_append, List.append_assoc]
    exact h₃
  · show next' (act' log.past s w).1.1.1 (act' log.past s w).1.1.2 (act' log.past s w).1.2
      (act' log.past s w).2 = _
    rw [Log.past_happened] at h₄
    rw [h₂, List.append_assoc]
    exact h₄

/-- Logging what is recorded is a likeness. -/
def likeness (σ : Type) : Likeness (Watched σ) (Recorded σ) := ⟨Logs, pure, bind⟩

/-- What sees neither the log nor the record does the same on both. -/
theorem say (e : Console.Entry) :
    Logs (Journal.say e : Watched σ Unit) (Journal.say e : Recorded σ Unit) :=
  fun _ s _ => ⟨(), [], s, _, rfl, rfl⟩

theorem guard (budget : Duration) :
    Logs (Guards.guard budget : Watched σ _) (Guards.guard budget : Recorded σ _) :=
  fun _ s _ => ⟨_, [], s, _, rfl, rfl⟩

/-- The stage of a loop logs what a stage with a record records. -/
theorem stage (around : Surroundings σ) :
    around.stage.Like (likeness σ) (.recorded around.engine around.surface) where
  engine := rfl
  surface := ⟨fun document _ _ _ => ⟨_, [.created document _], _, _, rfl, rfl⟩,
    fun artifact _ _ _ => ⟨_, [.displayed artifact _], _, _, rfl, rfl⟩,
    fun artifact _ _ _ => ⟨(), [.released artifact], _, _, rfl, rfl⟩⟩
  document log s w := ⟨log.past.text, [.read log.past.text], s, w, rfl, rfl⟩

/-- Of what is logged there is a record. -/
theorem leads {act : Watched σ α} {act' : Recorded σ α} {log log' : Log} {a : α}
    (h : Logs act act') (hl : Leads act log a log') :
    ∃ new, log' = new.map .happened ++ log ∧ Preview.Leads act' log.past a (new ++ log.past) := by
  obtain ⟨s, w, hl⟩ := hl
  obtain ⟨b, new, s', w', h₁, h₂⟩ := h log s w
  rw [h₁] at hl
  cases hl
  exact ⟨new, rfl, s, w, by rw [h₂]⟩

end Logs

theorem not_isHost_emptying (slot : Slot) : ∀ x ∈ slot.emptying, ¬x.IsHost := by
  intro x hx
  obtain ⟨artifact, -, rfl⟩ := List.mem_map.mp hx
  exact id

/-- What is on the record of an installation is what the surface was asked. -/
theorem asked_of_installs {past past' : Past} {slot slot' : Slot} {document : String}
    {answer : Except SurfaceError Artifact} (h : Installs past slot document answer slot' past') :
    ∃ new, past' = new ++ past ∧ ∀ x ∈ new, ¬x.IsHost := by
  have hcases : ∀ new : Past, (∀ x ∈ new, ¬x.IsHost) →
      ∃ new', slot.emptying ++ (new ++ past) = new' ++ past ∧ ∀ x ∈ new', ¬x.IsHost := by
    intro new hnew
    refine ⟨slot.emptying ++ new, (List.append_assoc _ _ _).symm, fun x hx => ?_⟩
    exact (List.mem_append.mp hx).elim (not_isHost_emptying slot x) (hnew x)
  cases h with
  | shown artifact =>
    exact hcases [.displayed artifact (.ok ()), .created document (.ok artifact)]
      (by simp [Happening.IsHost])
  | unmade e => exact hcases [.created document (.error e)] (by simp [Happening.IsHost])
  | unshown artifact e =>
    exact hcases [.released artifact, .displayed artifact (.error e),
      .created document (.ok artifact)] (by simp [Happening.IsHost])

/-- What is on the record of a cycle: the document was read, then the surface was asked. -/
theorem asked_of_cycles {engine : Engine} {s : Session} {past past' : Past} {outcome : Outcome}
    {slot : Slot} (h : Cycles engine s past outcome slot past') :
    ∃ text new, past' = new ++ .read text :: past ∧ ∀ x ∈ new, ¬x.IsHost := by
  cases h with
  | skipped ht => exact ⟨none, [], rfl, nofun⟩
  | shown text artifact slot past' ht hi => exact ⟨some text, asked_of_installs hi⟩
  | failed text e slot past' ht hi => exact ⟨some text, asked_of_installs hi⟩

/-- What a cycle makes of a session and the log. What was made is still live or taken back. -/
inductive Ran (s : Session) (log : Log) : Session → Log → Prop where
  | behind (outcome : Outcome) (slot : Slot) (text : Option String) (new : Past)
      (hnew : ∀ x ∈ new, ¬x.IsHost)
      (hb : Balanced s.slot log.past → Balanced slot (new ++ .read text :: log.past)) :
      Ran s log (s.behind outcome slot) (new.map .happened ++ .happened (.read text) :: log)

theorem Ran.of_cycles {engine : Engine} {s : Session} {log : Log} {new : Past} {outcome : Outcome}
    {slot : Slot} (h : Cycles engine s log.past outcome slot (new ++ log.past)) :
    Ran s log (s.behind outcome slot) (new.map .happened ++ log) := by
  obtain ⟨text, asked, he, hasked⟩ := asked_of_cycles h
  obtain rfl : new = asked ++ [.read text] := by
    have he' : new ++ log.past = asked ++ [.read text] ++ log.past := by
      rw [he, List.append_assoc]
      rfl
    exact List.append_cancel_right he'
  rw [List.map_append, List.append_assoc]
  refine .behind outcome slot text asked hasked fun hb => ?_
  rw [← he]
  exact h.balanced hb

section

variable {around : Surroundings σ} {s s' : Session} {log log' : Log}

/-- A poll runs a cycle if the deadline has come. -/
theorem leads_poll {now : Int} {answer : Option Outcome}
    (h : Leads (s.poll around.stage now) log (answer, s') log') :
    (s' = s ∧ log' = log ∧
      ∀ deadline, s.scheduler.phase = .scheduled deadline → now < deadline) ∨
    Ran s log s' log' ∧ ∃ deadline, s.scheduler.phase = .scheduled deadline ∧ deadline ≤ now := by
  obtain ⟨new, rfl, hl⟩ := ((Logs.stage around).poll Logs.say now s : Logs _ _).leads h
  rcases hl.of_poll with ⟨rfl, hnew, hn⟩ | ⟨outcome, slot, hc, rfl, hd⟩
  · rw [List.append_left_eq_self.mp hnew]
    exact .inl ⟨rfl, rfl, hn⟩
  · exact .inr ⟨.of_cycles hc, hd⟩

theorem leads_change {change : Change} {now : Int}
    (h : Leads (s.change change now : Watched σ Session) log s' log') :
    s' = { s with scheduler := (s.scheduler.notify change now).2 } ∧ log' = log := by
  obtain ⟨new, rfl, hl⟩ :=
    (Session.change_like (L := Logs.likeness σ) Logs.say s change now : Logs _ _).leads h
  obtain ⟨hs, hnew⟩ := hl.of_change
  rw [List.append_left_eq_self.mp hnew]
  exact ⟨hs, rfl⟩

theorem leads_apply {settings : Settings}
    (h : Leads (s.apply settings : Watched σ Session) log s' log') :
    s'.guard.milliseconds = settings.loopGuard ∧ s' = s.under settings s'.guard ∧
      log' = log := by
  obtain ⟨new, rfl, hl⟩ :=
    (Session.apply_like (L := Logs.likeness σ) (fun settings => Logs.guard settings.budget)
      settings s : Logs _ _).leads h
  obtain ⟨hg, hs, hnew⟩ := hl.of_apply
  rw [List.append_left_eq_self.mp hnew]
  exact ⟨hg, hs, rfl⟩

/-- Opening a session that rests runs a cycle. -/
theorem leads_activate {now : Int} (hi : s.scheduler.phase = .idle)
    (h : Leads (s.activate around.stage now) log s' log') : Ran s log s' log' := by
  obtain ⟨new, rfl, hl⟩ := ((Logs.stage around).activate Logs.say now s : Logs _ _).leads h
  generalize hp : new ++ log.past = past' at hl
  cases hl.of_activate with
  | activated now outcome slot past' hs hc =>
    subst hp
    exact .of_cycles hc
  | ignored now hs =>
    refine absurd ?_ (hs now)
    unfold Scheduler.scheduleNow
    rw [hi]

theorem leads_close (h : Leads (s.close around.stage) log s' log') :
    s' = { s with slot := .empty, scheduler := s.scheduler.close } ∧
      log' = s.slot.emptying.map .happened ++ log := by
  obtain ⟨new, rfl, hl⟩ := ((Logs.stage around).close s : Logs _ _).leads h
  obtain ⟨slot, between, h₁, hl⟩ := hl.of_bind
  obtain ⟨rfl, rfl⟩ := hl.of_pure
  obtain ⟨rfl, hnew⟩ := h₁.of_clear
  rw [List.append_cancel_right hnew]
  exact ⟨rfl, rfl⟩

theorem leads_start {settings : Settings}
    (h : Leads (Session.start settings : Watched σ Session) log s log') :
    s.guard.milliseconds = settings.loopGuard ∧ s = Session.opened settings s.guard ∧
      log' = log := by
  obtain ⟨new, rfl, hl⟩ :=
    (Session.start_like (L := Logs.likeness σ) (fun settings => Logs.guard settings.budget)
      settings : Logs _ _).leads h
  obtain ⟨hg, hs, hnew⟩ := hl.of_start
  rw [List.append_left_eq_self.mp hnew]
  exact ⟨hg, hs, rfl⟩

end

end LivePreview.Watch
