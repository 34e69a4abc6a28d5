import LivePreview.Proofs.Settings.InForce
import LivePreview.Proofs.Watch.Logged

/-!
# Turns of a loop

All that the parts of a run can lead to: the handling of a signal (`Handles`), a turn (`Turns`), the
start and the end. What every turn keeps, runs keep (`leads_turns`).
-/

namespace LivePreview.Watch

open Files (FileError)
open Preview (Balanced Scheduler Session)
open Recording (Leads)
open Settings (Handle Layer)

variable {σ : Type}

/-- What is previewed in some surroundings. -/
def Surroundings.subject (around : Surroundings σ) (name path : String) (overrides : Layer) :
    Subject (Watched σ) := ⟨around.stage, name, path, overrides⟩

/-- A session has been put under other settings. -/
def Reconfigured (settings : Settings) (s s' : Session) : Prop :=
  s'.guard.milliseconds = settings.loopGuard ∧ s' = s.under settings s'.guard

/-- A session behind a change. -/
def changed (change : Preview.Change) (now : Int) (s : Session) : Session :=
  { s with scheduler := (s.scheduler.notify change now).2 }

/-- All that the handling of what is received can lead to. -/
inductive Handles (p : Subject (Watched σ)) (s : State) (log : Log) : State → Log → Prop
  | waited (hw : log.waiting = []) : Handles p s log s (.received none :: log)
  | changed (change : Preview.Change) (rest : List Signal)
      (hw : log.waiting = .changed change :: rest) (now : Int) (text : Option String) :
      Handles p s log { s with session := changed change now s.session }
        (.told now text :: .received (some (.changed change)) :: log)
  /-- The settings file is loaded again. Its settings are put in force if they are answered, under a
  guard of their milliseconds. -/
  | reloaded (rest : List Signal) (hw : log.waiting = .settingsChanged :: rest)
      (file : Except FileError ByteArray) (s' : State)
      (hhandle : s'.handle = (s.handle.reload p.settingsPath p.overrides file).2)
      (hs : s' = s ∨ Reconfigured s'.handle.current s.session s'.session) :
      Handles p s log s' (.loaded file :: .received (some .settingsChanged) :: log)

/-- The log of a turn up to its wait. -/
def waited (start : Int) (text : Option String) (signals : List Signal) (log : Log) : Log :=
  .arrived signals :: .told start text :: log

/-- All that a turn can lead to, and whether there is to be another. -/
inductive Turns (p : Subject (Watched σ)) (s : State) (log : Log) : Bool → State → Log → Prop
  | closing (start : Int) (text : Option String) (signals : List Signal) (s' : State) (log' : Log)
      (hh : Handles p s (waited start text signals log) s' log') :
      Turns p s log false s' (.asked true :: log')
  /-- No deadline has come. -/
  | rested (start : Int) (text : Option String) (signals : List Signal) (s' : State) (log' : Log)
      (hh : Handles p s (waited start text signals log) s' log')
      (now : Int) (text' : Option String)
      (hn : ∀ deadline, s'.session.scheduler.phase = .scheduled deadline → now < deadline) :
      Turns p s log true s' (.told now text' :: .asked false :: log')
  | ran (start : Int) (text : Option String) (signals : List Signal) (s' : State) (log' : Log)
      (hh : Handles p s (waited start text signals log) s' log')
      (now : Int) (text' : Option String) (session : Session) (log'' : Log) (deadline : Int)
      (hs : s'.session.scheduler.phase = .scheduled deadline) (hd : deadline ≤ now)
      (hr : Ran s'.session (.told now text' :: .asked false :: log') session log'') :
      Turns p s log true { s' with session := session } log''

section

variable {around : Surroundings σ} {p : Subject (Watched σ)} {s s' : State} {log log' : Log}

/-- What is reported is not on the log. -/
theorem leads_reportLast {name : String} {session : Session} {u : Unit}
    (h : Leads (reportLast name session : Watched σ Unit) log u log') : log' = log := by
  unfold reportLast at h
  cases hl : session.last with
  | none =>
    rw [hl] at h
    exact h.of_pure.2
  | some outcome =>
    rw [hl] at h
    cases outcome <;> exact h.of_say

/-- What loading the settings file again leads to. -/
theorem leads_reload (h : Leads (reload p s) log s' log') :
    ∃ file, log' = .loaded file :: log ∧
      s'.handle = (s.handle.reload p.settingsPath p.overrides file).2 ∧
      (s' = s ∨ Reconfigured s'.handle.current s.session s'.session) := by
  obtain ⟨file, between, h₁, h⟩ := h.of_bind
  have hread := leads_read h₁
  subst hread
  refine ⟨file, ?_⟩
  rcases Handle.reload_cases p.settingsPath p.overrides file s.handle with
    ⟨-, hr⟩ | ⟨-, ⟨e, -, hr⟩ | ⟨settings, notes, -, hr⟩⟩
  · rw [hr] at h ⊢
    obtain ⟨rfl, rfl⟩ := h.of_pure
    exact ⟨rfl, rfl, .inl rfl⟩
  · rw [hr] at h ⊢
    obtain ⟨u, between, h₂, h⟩ := h.of_bind
    obtain ⟨rfl, rfl⟩ := h.of_pure
    exact ⟨h₂.of_say, rfl, .inl rfl⟩
  · rw [hr] at h ⊢
    obtain ⟨u, said, h₂, h⟩ := h.of_bind
    obtain ⟨u', noted, h₃, h⟩ := h.of_bind
    obtain ⟨session, applied, h₄, h⟩ := h.of_bind
    obtain ⟨rfl, rfl⟩ := h.of_pure
    obtain ⟨hg, hsession, rfl⟩ := leads_apply h₄
    exact ⟨h₃.of_say.trans h₂.of_forM_say, rfl, .inr ⟨hg, hsession⟩⟩

/-- What a wait and the handling of its signal lead to. -/
theorem leads_handling {wait : Nat} {signal : Option Signal} {between : Log}
    (h₁ : Leads (around.outside.receive wait) log signal between)
    (h : Leads (onAny p around.outside s signal) between s' log') :
    ∃ signals, Handles p s (.arrived signals :: log) s' log' := by
  obtain ⟨signals, hsignal, rfl⟩ := leads_receive h₁
  refine ⟨signals, ?_⟩
  cases hw : log.waiting ++ signals with
  | nil =>
    rw [hw] at hsignal
    subst hsignal
    obtain ⟨rfl, rfl⟩ := h.of_pure
    exact .waited hw
  | cons first rest =>
    rw [hw] at hsignal
    subst hsignal
    cases first with
    | changed change =>
      obtain ⟨now, told, h₂, h⟩ := h.of_bind
      obtain ⟨text, rfl⟩ := leads_now h₂
      obtain ⟨session, notified, h₃, h⟩ := h.of_bind
      obtain ⟨rfl, rfl⟩ := h.of_pure
      obtain ⟨rfl, rfl⟩ := leads_change h₃
      refine .changed change rest ?_ now text
      exact hw
    | settingsChanged =>
      obtain ⟨file, rfl, hhandle, hs⟩ := leads_reload h
      refine .reloaded rest ?_ file s' hhandle hs
      exact hw

/-- What a turn leads to. -/
theorem leads_turn (hp : p.stage = around.stage) {more : Bool}
    (h : Leads (turn p around.outside s) log (more, s') log') : Turns p s log more s' log' := by
  obtain ⟨start, told, h₁, h⟩ := h.of_bind
  obtain ⟨text, rfl⟩ := leads_now h₁
  obtain ⟨signal, received, h₂, h⟩ := h.of_bind
  obtain ⟨handled, mid, h₃, h⟩ := h.of_bind
  obtain ⟨signals, hh⟩ := leads_handling h₂ h₃
  obtain ⟨closing, asked, h₄, h⟩ := h.of_bind
  have hasked := leads_closing h₄
  subst hasked
  cases closing with
  | true =>
    obtain ⟨u, said, h₅, h⟩ := h.of_bind
    obtain ⟨he, rfl⟩ := h.of_pure
    cases he
    rw [h₅.of_say]
    exact .closing start text signals _ _ hh
  | false =>
    obtain ⟨now, told, h₅, h⟩ := h.of_bind
    obtain ⟨text', rfl⟩ := leads_now h₅
    obtain ⟨⟨outcome, session⟩, polled, h₆, h⟩ := h.of_bind
    have hend : more = true ∧ s' = { handled with session := session } ∧ log' = polled := by
      cases outcome with
      | none =>
        obtain ⟨he, rfl⟩ := h.of_pure
        cases he
        exact ⟨rfl, rfl, rfl⟩
      | some outcome =>
        simp only [Option.isSome_some, if_true] at h
        obtain ⟨u, reported, h₇, h⟩ := h.of_bind
        obtain ⟨he, rfl⟩ := h.of_pure
        cases he
        exact ⟨rfl, rfl, leads_reportLast h₇⟩
    obtain ⟨rfl, rfl, rfl⟩ := hend
    rw [hp] at h₆
    rcases leads_poll h₆ with ⟨rfl, rfl, hn⟩ | ⟨hr, deadline, hs, hd⟩
    · exact .rested start text signals _ _ hh now text' hn
    · exact .ran start text signals _ _ hh now text' session _ deadline hs hd hr

/-- What the start leads to: a cycle. -/
theorem leads_opening (hp : p.stage = around.stage) {handle : Handle}
    (h : Leads (start p around.outside handle) log s log') :
    ∃ guard now text session, s = ⟨session, handle⟩ ∧
      Ran (Session.opened handle.current guard) (.told now text :: log) session log' := by
  obtain ⟨opened, between, h₁, h₂⟩ := h.of_bind
  obtain ⟨-, hopened, hbetween⟩ := leads_start h₁
  subst hbetween
  obtain ⟨now, told, h₃, h₄⟩ := h₂.of_bind
  obtain ⟨text, rfl⟩ := leads_now h₃
  obtain ⟨session, rendered, h₅, h₆⟩ := h₄.of_bind
  obtain ⟨u, reported, h₇, h₈⟩ := h₆.of_bind
  obtain ⟨rfl, rfl⟩ := h₈.of_pure
  rw [hp] at h₅
  rw [leads_reportLast h₇]
  rw [hopened] at h₅
  exact ⟨opened.guard, now, text, session, rfl, leads_activate rfl h₅⟩

/-- What the end leads to. -/
theorem leads_finish (hp : p.stage = around.stage) (h : Leads (finish p s) log s' log') :
    s'.session.scheduler.phase = .closed ∧ s'.session.cycles = s.session.cycles ∧
      s'.session.slot = .empty ∧ log' = s.session.slot.emptying.map .happened ++ log := by
  obtain ⟨session, closed, h₁, h⟩ := h.of_bind
  obtain ⟨rfl, rfl⟩ := h.of_pure
  rw [hp] at h₁
  obtain ⟨rfl, rfl⟩ := leads_close h₁
  exact ⟨rfl, rfl, rfl, rfl⟩

/-- What every turn keeps holds behind the last turn, or before it if the program was closing. -/
theorem leads_turns (hp : p.stage = around.stage) {motive : State → Log → Prop}
    (hstep : ∀ s log s' log', motive s log → Turns p s log true s' log' → motive s' log')
    {limit : Nat} {closing : Bool} (hs : motive s log)
    (h : Leads (turns p around.outside limit s) log (closing, s') log') :
    if closing then ∃ last before, motive last before ∧ Turns p last before false s' log'
    else motive s' log' := by
  -- The first turn comes off the limit, so the state that the others start in varies.
  induction limit generalizing s log with
  | zero =>
    obtain ⟨he, rfl⟩ := h.of_pure
    cases he
    exact hs
  | succ limit ih =>
    obtain ⟨⟨more, between⟩, mid, h₁, h⟩ := h.of_bind
    have hturn := leads_turn hp h₁
    cases more with
    | true => exact ih (hstep _ _ _ _ hs hturn) h
    | false =>
      obtain ⟨he, rfl⟩ := h.of_pure
      cases he
      exact ⟨s, log, hs, hturn⟩

end

end LivePreview.Watch
