import LivePreview.Preview.Session
import LivePreview.Proofs.Preview.History
import LivePreview.Proofs.Recording

/-!
# Sessions with a record

A session over an arbitrary surface, with a record of what happens around it.

1. The record holds, latest first, what the host does (documents, notices, settings with the guard
   that they came to) and what the surface and the document are asked. The text of the document is
   what the record says it is.
2. `Leads act past a past'` says that an action, in some state of the surface and of the sandbox,
   answers `a` and takes the record from `past` to `past'`. What holds of all that an action leads
   to holds whatever the surface does.
3. One lemma for each operation says all that it can lead to (`Installs`, `Cycles`, `Polls`).
-/

namespace LivePreview.Preview

open Console (Journal)
open Guard (Guards LoopGuard)

/-! ## The record -/

/-- What happens around a session. -/
inductive Happening where
  /-- The session has started, under a guard, for a document. -/
  | opened (settings : Settings) (guard : LoopGuard) (text : Option String)
  /-- The document changes; without a text it is gone. -/
  | edited (text : Option String)
  | notified (change : Change)
  /-- Settings were put in force, under a guard. -/
  | configured (settings : Settings) (guard : LoopGuard)
  /-- A cycle reads the document. -/
  | read (text : Option String)
  | created (document : String) (answer : Except SurfaceError Artifact)
  | displayed (artifact : Artifact) (answer : Except SurfaceError Unit)
  | released (artifact : Artifact)

/-- What has happened so far, latest first. -/
abbrev Past := List Happening

/-- What a cycle goes by: the settings and the guard in force, and the text that it has read. -/
structure Reading where
  settings : Settings
  guard : LoopGuard
  text : Option String
deriving DecidableEq, Repr

namespace Past

/-- The text of the document, if there is one. -/
def text : Past → Option String
  | [] => none
  | .opened _ _ text :: _ | .edited text :: _ => text
  | _ :: past => text past

/-- The settings in force. -/
def settings : Past → Settings
  | [] => .default
  | .opened settings _ _ :: _ | .configured settings _ :: _ => settings
  | _ :: past => settings past

/-- The guard in force. -/
def guard : Past → LoopGuard
  | [] => .ofMilliseconds Settings.default.loopGuard
  | .opened _ guard _ :: _ | .configured _ guard :: _ => guard
  | _ :: past => guard past

/-- The documents that the surface was asked to make artifacts of. -/
def offered : Past → List String
  | [] => []
  | .created document _ :: past => document :: offered past
  | _ :: past => offered past

/-- The artifacts that the surface made. -/
def made : Past → List Artifact
  | [] => []
  | .created _ (.ok artifact) :: past => artifact :: made past
  | _ :: past => made past

/-- The artifacts that were taken back. -/
def taken : Past → List Artifact
  | [] => []
  | .released artifact :: past => artifact :: taken past
  | _ :: past => taken past

/-- What cycles have gone by. -/
def cycles : Past → List Reading
  | [] => []
  | .read text :: past => ⟨settings past, guard past, text⟩ :: cycles past
  | _ :: past => cycles past

/-- Settings have always come to a guard of their milliseconds. -/
def Guarded : Past → Prop
  | [] => True
  | .opened settings guard _ :: past | .configured settings guard :: past =>
    guard.milliseconds = settings.loopGuard ∧ Guarded past
  | _ :: past => Guarded past

end Past

/-! ## Actions with a record -/

/-- Actions on an arbitrary surface, with a record. -/
abbrev Recorded (σ : Type) := StateT Past (StateT σ (StateM Sandbox))

variable {σ : Type}

/-- Puts something on the record. -/
def record (x : Happening) : Recorded σ Unit := modify (x :: ·)

/-- A surface that keeps a record of what it is asked and what it answers. -/
def Surface.recorded (surface : Surface (StateT σ (StateM Sandbox))) : Surface (Recorded σ) where
  create document := do
    let answer ← (surface.create document : StateT σ (StateM Sandbox) _)
    record (.created document answer)
    return answer
  display artifact := do
    let answer ← (surface.display artifact : StateT σ (StateM Sandbox) _)
    record (.displayed artifact answer)
    return answer
  release artifact := do
    (surface.release artifact : StateT σ (StateM Sandbox) _)
    record (.released artifact)

/-- The document that the record tells of. -/
def recordedDocument : Recorded σ (Option String) := do
  let past ← get
  record (.read past.text)
  return past.text

/-- What a session works with: any engine, any surface. -/
def Stage.recorded (engine : Engine) (surface : Surface (StateT σ (StateM Sandbox))) :
    Stage (Recorded σ) := ⟨engine, surface.recorded, recordedDocument⟩

/-- An action, in some state of the surface and the sandbox, has an answer and a record. -/
def Leads {α : Type} (act : Recorded σ α) (past : Past) (a : α) (past' : Past) : Prop :=
  ∃ s w, (act past s w).1.1 = (a, past')

namespace Leads

variable {α β : Type} {past past' : Past} {a : α} {b : β}

theorem of_pure {a' : α} (h : Leads (pure a : Recorded σ α) past a' past') :
    a' = a ∧ past' = past := Recording.Leads.of_pure h

theorem of_bind {act : Recorded σ α} {next : α → Recorded σ β}
    (h : Leads (act >>= next) past b past') :
    ∃ a between, Leads act past a between ∧ Leads (next a) between b past' :=
  Recording.Leads.of_bind h

theorem of_record {x : Happening} {u : Unit} (h : Leads (record x : Recorded σ Unit) past u past') :
    past' = x :: past := Recording.Leads.of_note h

/-- What does not see the record leaves it alone. -/
theorem of_lift {act : StateT σ (StateM Sandbox) α} (h : Leads (StateT.lift act) past a past') :
    past' = past := Recording.Leads.of_lift h

theorem of_detail {topic text : String} {u : Unit}
    (h : Leads (Journal.detail topic text : Recorded σ Unit) past u past') : past' = past :=
  Recording.Leads.of_say h

/-- A guard has the milliseconds that it is asked for. -/
theorem of_guard {budget : Duration} {g : LoopGuard}
    (h : Leads (Guards.guard budget : Recorded σ LoopGuard) past g past') :
    g.milliseconds = budget.milliseconds ∧ past' = past := by
  obtain ⟨s, w, h⟩ := h
  obtain ⟨h₁, h₂⟩ := Prod.mk.inj h
  refine ⟨?_, h₂.symm⟩
  rw [← h₁]
  exact w.registry.register_fst_milliseconds budget

end Leads

/-! ## The slot -/

/-- What is recorded when a slot is emptied. -/
def Slot.emptying (slot : Slot) : Past := slot.live.toList.map .released

/-- What a record says without regard to what is taken back, it says behind an emptying. -/
theorem view_emptying {β : Type} (view : Past → β)
    (hr : ∀ artifact past, view (.released artifact :: past) = view past) (slot : Slot)
    (past : Past) : view (slot.emptying ++ past) = view past := by
  unfold Slot.emptying
  cases slot.live with
  | none => rfl
  | some artifact => exact hr artifact past

/-- What can come of installing a document: the answer, the slot and the record. -/
inductive Installs (past : Past) (slot : Slot) (document : String) :
    Except SurfaceError Artifact → Slot → Past → Prop where
  /-- The artifact is made and shown, then the one before is taken back. -/
  | shown (artifact : Artifact) : Installs past slot document (.ok artifact) ⟨some artifact⟩
      (slot.emptying ++ .displayed artifact (.ok ()) :: .created document (.ok artifact) :: past)
  /-- No artifact is made; the one before is taken back. -/
  | unmade (e : SurfaceError) : Installs past slot document (.error e) .empty
      (slot.emptying ++ .created document (.error e) :: past)
  /-- The artifact is made and cannot be shown; it is taken back, and the one before. -/
  | unshown (artifact : Artifact) (e : SurfaceError) : Installs past slot document (.error e) .empty
      (slot.emptying ++ .released artifact :: .displayed artifact (.error e) ::
        .created document (.ok artifact) :: past)

section

variable {past past' : Past} {slot slot' : Slot} {document : String}
  {surface : Surface (StateT σ (StateM Sandbox))}

theorem Leads.of_create {answer : Except SurfaceError Artifact}
    (h : Leads (surface.recorded.create document) past answer past') :
    past' = .created document answer :: past := by
  obtain ⟨a, between, h₁, h⟩ := h.of_bind
  obtain ⟨u, between', h₂, h⟩ := h.of_bind
  obtain ⟨rfl, rfl⟩ := h.of_pure
  rw [h₂.of_record, h₁.of_lift]

theorem Leads.of_display {artifact : Artifact} {answer : Except SurfaceError Unit}
    (h : Leads (surface.recorded.display artifact) past answer past') :
    past' = .displayed artifact answer :: past := by
  obtain ⟨a, between, h₁, h⟩ := h.of_bind
  obtain ⟨u, between', h₂, h⟩ := h.of_bind
  obtain ⟨rfl, rfl⟩ := h.of_pure
  rw [h₂.of_record, h₁.of_lift]

theorem Leads.of_release {artifact : Artifact} {u : Unit}
    (h : Leads (surface.recorded.release artifact) past u past') :
    past' = .released artifact :: past := by
  obtain ⟨a, between, h₁, h⟩ := h.of_bind
  rw [h.of_record, h₁.of_lift]

/-- What emptying a slot leads to. -/
theorem Leads.of_clear (h : Leads (slot.clear surface.recorded) past slot' past') :
    slot' = .empty ∧ past' = slot.emptying ++ past := by
  unfold Slot.clear at h
  unfold Slot.emptying
  cases hl : slot.live with
  | none =>
    rw [hl] at h
    exact h.of_pure
  | some artifact =>
    rw [hl] at h
    obtain ⟨u, between, h₁, h⟩ := h.of_bind
    obtain ⟨rfl, rfl⟩ := h.of_pure
    exact ⟨rfl, h₁.of_release⟩

/-- What installing a document leads to. -/
theorem Leads.of_install {answer : Except SurfaceError Artifact}
    (h : Leads (slot.install surface.recorded document) past (answer, slot') past') :
    Installs past slot document answer slot' past' := by
  obtain ⟨presented, between, h₁, h⟩ := h.of_bind
  obtain ⟨cleared, between', h₂, h⟩ := h.of_bind
  obtain ⟨rfl, rfl⟩ := h₂.of_clear
  obtain ⟨made, mid, h₃, h₁⟩ := h₁.of_bind
  have hm := h₃.of_create
  subst hm
  cases made with
  | error e =>
    obtain ⟨rfl, rfl⟩ := h₁.of_pure
    obtain ⟨he, rfl⟩ := h.of_pure
    cases he
    exact .unmade e
  | ok artifact =>
    obtain ⟨displayed, mid', h₄, h₁⟩ := h₁.of_bind
    have hd := h₄.of_display
    subst hd
    cases displayed with
    | ok u =>
      obtain ⟨rfl, rfl⟩ := h₁.of_pure
      obtain ⟨he, rfl⟩ := h.of_pure
      cases he
      exact .shown artifact
    | error e =>
      obtain ⟨u, mid'', h₅, h₁⟩ := h₁.of_bind
      obtain ⟨rfl, rfl⟩ := h₁.of_pure
      have hr := h₅.of_release
      subst hr
      obtain ⟨he, rfl⟩ := h.of_pure
      cases he
      exact .unshown artifact e

end

/-! ## The session -/

/-- The page of a text under a guard. -/
def pageOf (engine : Engine) (guard : LoopGuard) (text : String) : Rendered :=
  render engine guard text.toList

/-- What can come of a cycle: the outcome, the slot and the record. -/
inductive Cycles (engine : Engine) (s : Session) (past : Past) : Outcome → Slot → Past → Prop where
  | skipped (ht : past.text = none) : Cycles engine s past .skipped s.slot (.read none :: past)
  | shown (text : String) (artifact : Artifact) (slot : Slot) (past' : Past)
      (ht : past.text = some text)
      (hi : Installs (.read (some text) :: past) s.slot (pageOf engine s.guard text).page
        (.ok artifact) slot past') :
      Cycles engine s past (.ofRendered (pageOf engine s.guard text) artifact.location)
        slot past'
  | failed (text : String) (e : SurfaceError) (slot : Slot) (past' : Past)
      (ht : past.text = some text)
      (hi : Installs (.read (some text) :: past) s.slot (pageOf engine s.guard text).page
        (.error e) slot past') :
      Cycles engine s past (.surfaceFailed e.message) slot past'

/-- The session behind a cycle. -/
def Session.behind (s : Session) (outcome : Outcome) (slot : Slot) : Session :=
  { s with
    scheduler := { s.scheduler with phase := .idle }
    slot := slot
    cycles := s.cycles + 1
    last := some outcome }

/-- A cycle does not look at the timer. -/
theorem Cycles.of_scheduler {engine : Engine} {s : Session} {scheduler : Scheduler}
    {past past' : Past} {outcome : Outcome} {slot : Slot}
    (h : Cycles engine { s with scheduler := scheduler } past outcome slot past') :
    Cycles engine s past outcome slot past' := by
  cases h with
  | skipped ht => exact .skipped ht
  | shown text artifact slot past' ht hi => exact .shown text artifact slot past' ht hi
  | failed text e slot past' ht hi => exact .failed text e slot past' ht hi

theorem Session.behind_scheduler {s : Session} {scheduler : Scheduler} {outcome : Outcome}
    {slot : Slot} (hd : scheduler.debounce = s.scheduler.debounce)
    (ho : scheduler.saveOnly = s.scheduler.saveOnly) :
    Session.behind { s with scheduler := scheduler } outcome slot = s.behind outcome slot := by
  show (⟨⟨.idle, scheduler.debounce, scheduler.saveOnly⟩, slot, s.settings, s.guard, s.cycles + 1,
    some outcome⟩ : Session) = _
  rw [hd, ho]
  rfl

/-- What is done with a session. -/
inductive Step where
  | edit (text : Option String)
  | notify (change : Change) (now : Int)
  | activate (now : Int)
  | poll (now : Int)
  | configure (settings : Settings)
  | close
deriving DecidableEq, Repr

/-- A step of a session, with a record. -/
def Session.take (engine : Engine) (surface : Surface (StateT σ (StateM Sandbox))) (s : Session) :
    Step → Recorded σ Session
  | .edit text => do
    record (.edited text)
    return s
  | .notify change now => do
    record (.notified change)
    s.change change now
  | .activate now => s.activate (.recorded engine surface) now
  | .poll now => do
    let (_, s) ← s.poll (.recorded engine surface) now
    return s
  | .configure settings => do
    let s ← s.apply settings
    record (.configured settings s.guard)
    return s
  | .close => s.close (.recorded engine surface)

/-- Steps of a session, with a record. -/
def Session.takeAll (engine : Engine) (surface : Surface (StateT σ (StateM Sandbox))) :
    Session → List Step → Recorded σ Session
  | s, [] => return s
  | s, step :: steps => do
    let s ← s.take engine surface step
    s.takeAll engine surface steps

/-- A session from its start, with a record. -/
def Session.play (engine : Engine) (surface : Surface (StateT σ (StateM Sandbox)))
    (settings : Settings) (text : Option String) (steps : List Step) : Recorded σ Session := do
  let s ← Session.start settings
  record (.opened settings s.guard text)
  s.takeAll engine surface steps

/-- A session under other settings, with the guard that they came to. -/
def Session.under (settings : Settings) (guard : LoopGuard) (s : Session) : Session :=
  { s with
    guard := guard
    scheduler := s.scheduler.reconfigure settings.debounce settings.saveOnly
    settings := settings }

/-- All that a step can lead to. -/
inductive Moves (engine : Engine) (s : Session) (past : Past) : Step → Session → Past → Prop where
  | edited (text : Option String) : Moves engine s past (.edit text) s (.edited text :: past)
  | notified (change : Change) (now : Int) : Moves engine s past (.notify change now)
      { s with scheduler := (s.scheduler.notify change now).2 } (.notified change :: past)
  | configured (settings : Settings) (guard : LoopGuard)
      (hg : guard.milliseconds = settings.loopGuard) : Moves engine s past (.configure settings)
      (s.under settings guard) (.configured settings guard :: past)
  /-- A poll without effect: no deadline has come. -/
  | waited (now : Int) (hn : ∀ deadline, s.scheduler.phase = .scheduled deadline → now < deadline) :
      Moves engine s past (.poll now) s past
  | polled (now deadline : Int) (outcome : Outcome) (slot : Slot) (past' : Past)
      (hs : s.scheduler.phase = .scheduled deadline) (hd : deadline ≤ now)
      (hc : Cycles engine s past outcome slot past') :
      Moves engine s past (.poll now) (s.behind outcome slot) past'
  | activated (now : Int) (outcome : Outcome) (slot : Slot) (past' : Past)
      (hs : (s.scheduler.scheduleNow now).phase = .scheduled now)
      (hc : Cycles engine s past outcome slot past') :
      Moves engine s past (.activate now) (s.behind outcome slot) past'
  /-- An opening without effect: the session is closed, or a cycle runs. -/
  | ignored (now : Int)
      (hs : ∀ deadline, (s.scheduler.scheduleNow now).phase ≠ .scheduled deadline) :
      Moves engine s past (.activate now)
        { s with scheduler := s.scheduler.scheduleNow now } past
  | closed : Moves engine s past .close
      { s with slot := .empty, scheduler := s.scheduler.close } (s.slot.emptying ++ past)

section

variable {past past' : Past} {engine : Engine} {s s' : Session}
  {surface : Surface (StateT σ (StateM Sandbox))}

theorem Leads.of_document {text : Option String}
    (h : Leads (recordedDocument : Recorded σ (Option String)) past text past') :
    text = past.text ∧ past' = .read past.text :: past := by
  obtain ⟨st, w, h⟩ := h
  obtain ⟨h₁, h₂⟩ := Prod.mk.inj h
  exact ⟨h₁.symm, h₂.symm⟩

/-- What a cycle leads to. -/
theorem Leads.of_cycle {outcome : Outcome} {slot : Slot}
    (h : Leads (s.cycle (.recorded engine surface)) past (outcome, slot) past') :
    Cycles engine s past outcome slot past' := by
  obtain ⟨text, between, h₁, h⟩ := h.of_bind
  obtain ⟨rfl, rfl⟩ := h₁.of_document
  cases ht : past.text with
  | none =>
    rw [ht] at h
    obtain ⟨u, between, h₂, h⟩ := h.of_bind
    obtain ⟨he, rfl⟩ := h.of_pure
    cases he
    rw [h₂.of_detail]
    exact .skipped ht
  | some text =>
    rw [ht] at h
    obtain ⟨⟨answer, installed⟩, between, h₂, h⟩ := h.of_bind
    have hi := h₂.of_install
    cases answer with
    | ok artifact =>
      obtain ⟨he, rfl⟩ := h.of_pure
      cases he
      exact .shown text artifact _ _ ht hi
    | error e =>
      obtain ⟨he, rfl⟩ := h.of_pure
      cases he
      exact .failed text e _ _ ht hi

/-- What a poll leads to. -/
theorem Leads.of_poll {now : Int} {answer : Option Outcome}
    (h : Leads (s.poll (.recorded engine surface) now) past (answer, s') past') :
    (s' = s ∧ past' = past ∧ ∀ deadline, s.scheduler.phase = .scheduled deadline → now < deadline) ∨
    ∃ outcome slot, Cycles engine s past outcome slot past' ∧ s' = s.behind outcome slot ∧
      ∃ deadline, s.scheduler.phase = .scheduled deadline ∧ deadline ≤ now := by
  unfold Session.poll at h
  rcases s.scheduler.beginIfDue_cases now with ⟨hb, hd⟩ | ⟨hb, hn⟩
  · rw [hb] at h
    obtain ⟨⟨outcome, slot⟩, between, h₁, h⟩ := h.of_bind
    obtain ⟨he, rfl⟩ := h.of_pure
    cases he
    exact .inr ⟨outcome, slot, h₁.of_cycle, rfl, hd⟩
  · rw [hb] at h
    obtain ⟨he, rfl⟩ := h.of_pure
    cases he
    exact .inl ⟨rfl, rfl, hn⟩

/-- What a change leads to. -/
theorem Leads.of_change {change : Change} {now : Int}
    (h : Leads (s.change change now : Recorded σ Session) past s' past') :
    s' = { s with scheduler := (s.scheduler.notify change now).2 } ∧ past' = past := by
  unfold Session.change at h
  rcases hn : s.scheduler.notify change now with ⟨counts, scheduler⟩
  rw [hn] at h
  cases counts with
  | false => exact h.of_pure
  | true =>
    obtain ⟨u, between, h₁, h⟩ := h.of_bind
    obtain ⟨rfl, rfl⟩ := h.of_pure
    exact ⟨rfl, h₁.of_detail⟩

/-- What settings lead to. -/
theorem Leads.of_apply {settings : Settings}
    (h : Leads (s.apply settings : Recorded σ Session) past s' past') :
    s'.guard.milliseconds = settings.loopGuard ∧ s' = s.under settings s'.guard ∧
      past' = past := by
  unfold Session.apply at h
  dsimp only at h
  by_cases hb : settings.budget = s.guard.budget
  · rw [if_pos hb] at h
    obtain ⟨guard, between, h₁, h⟩ := h.of_bind
    obtain ⟨rfl, rfl⟩ := h.of_pure
    obtain ⟨rfl, rfl⟩ := h₁.of_pure
    refine ⟨?_, rfl, rfl⟩
    rw [LoopGuard.milliseconds, ← hb, settings.milliseconds_budget]
  · rw [if_neg hb] at h
    obtain ⟨guard, between, h₁, h⟩ := h.of_bind
    obtain ⟨rfl, rfl⟩ := h.of_pure
    obtain ⟨hg, rfl⟩ := h₁.of_guard
    exact ⟨hg.trans settings.milliseconds_budget, rfl, rfl⟩

/-- What an opening leads to. -/
theorem Leads.of_activate {now : Int}
    (h : Leads (s.activate (.recorded engine surface) now) past s' past') :
    Moves engine s past (.activate now) s' past' := by
  obtain ⟨⟨answer, polled⟩, between, h₁, h⟩ := h.of_bind
  obtain ⟨rfl, rfl⟩ := h.of_pure
  rcases h₁.of_poll with ⟨rfl, rfl, hn⟩ | ⟨outcome, slot, hc, rfl, deadline, hs, -⟩
  · refine .ignored now fun deadline hs => ?_
    have hlt := hn deadline hs
    rw [Scheduler.scheduleNow_deadline hs] at hlt
    exact Int.lt_irrefl _ hlt
  · have hd := Scheduler.scheduleNow_deadline hs
    subst hd
    rw [Session.behind_scheduler (Scheduler.scheduleNow_debounce _ _)
      (Scheduler.scheduleNow_saveOnly _ _)]
    exact .activated _ outcome slot past' hs hc.of_scheduler

/-- All that a step can lead to. -/
theorem Leads.of_take {step : Step} (h : Leads (s.take engine surface step) past s' past') :
    Moves engine s past step s' past' := by
  cases step with
  | edit text =>
    obtain ⟨u, between, h₁, h⟩ := h.of_bind
    obtain ⟨rfl, rfl⟩ := h.of_pure
    rw [h₁.of_record]
    exact .edited text
  | notify change now =>
    obtain ⟨u, between, h₁, h⟩ := h.of_bind
    obtain ⟨rfl, rfl⟩ := h.of_change
    rw [h₁.of_record]
    exact .notified change now
  | activate now => exact h.of_activate
  | poll now =>
    obtain ⟨⟨answer, polled⟩, between, h₁, h⟩ := h.of_bind
    obtain ⟨rfl, rfl⟩ := h.of_pure
    rcases h₁.of_poll with ⟨rfl, rfl, hn⟩ | ⟨outcome, slot, hc, rfl, deadline, hs, hd⟩
    · exact .waited now hn
    · exact .polled now deadline outcome slot _ hs hd hc
  | configure settings =>
    obtain ⟨applied, between, h₁, h₂⟩ := h.of_bind
    obtain ⟨hg, hs, hbetween⟩ := h₁.of_apply
    obtain ⟨u, between', h₃, h₄⟩ := h₂.of_bind
    obtain ⟨rfl, rfl⟩ := h₄.of_pure
    rw [h₃.of_record, hs, hbetween]
    exact .configured settings s'.guard hg
  | close =>
    obtain ⟨slot, between, h₁, h⟩ := h.of_bind
    obtain ⟨rfl, rfl⟩ := h.of_pure
    obtain ⟨rfl, rfl⟩ := h₁.of_clear
    exact .closed

/-- What every step keeps, runs keep. -/
theorem Leads.takeAll_induction {steps : List Step} {motive : Session → Past → Prop}
    (hstep : ∀ step ∈ steps, ∀ s past s' past', motive s past → Moves engine s past step s' past' →
      motive s' past') (hs : motive s past)
    (h : Leads (s.takeAll engine surface steps) past s' past') : motive s' past' := by
  induction steps generalizing s past with
  | nil =>
    obtain ⟨rfl, rfl⟩ := h.of_pure
    exact hs
  | cons step steps ih =>
    obtain ⟨between, mid, h₁, h⟩ := h.of_bind
    refine ih (fun step hm => hstep step (List.mem_cons_of_mem _ hm)) ?_ h
    exact hstep step List.mem_cons_self _ _ _ _ hs h₁.of_take

/-- A session that has just been opened, with the guard that its settings came to. -/
def Session.opened (settings : Settings) (guard : LoopGuard) : Session :=
  ⟨.start settings.debounce settings.saveOnly, .empty, settings, guard, 0, none⟩

/-- What the start of a session leads to. -/
theorem Leads.of_start {settings : Settings}
    (h : Leads (Session.start settings : Recorded σ Session) past s past') :
    s.guard.milliseconds = settings.loopGuard ∧ s = Session.opened settings s.guard ∧
      past' = past := by
  obtain ⟨guard, between, h₁, h⟩ := h.of_bind
  obtain ⟨rfl, rfl⟩ := h.of_pure
  obtain ⟨hg, rfl⟩ := h₁.of_guard
  exact ⟨hg.trans settings.milliseconds_budget, rfl, rfl⟩

/-- What a run leads to is what its steps lead to, from the opening on. -/
theorem Leads.of_play {settings : Settings} {text : Option String} {steps : List Step}
    (h : Leads (Session.play engine surface settings text steps) past s' past') :
    ∃ guard : LoopGuard, guard.milliseconds = settings.loopGuard ∧
      Leads ((Session.opened settings guard).takeAll engine surface steps)
        (.opened settings guard text :: past) s' past' := by
  obtain ⟨s, between, h₁, h₂⟩ := h.of_bind
  obtain ⟨hg, hs, hbetween⟩ := h₁.of_start
  obtain ⟨u, mid, h₃, h₄⟩ := h₂.of_bind
  rw [h₃.of_record, hbetween] at h₄
  exact ⟨s.guard, hg, hs ▸ h₄⟩

end

end LivePreview.Preview
