import LivePreview.Proofs.Preview.Ownership

/-!
# Previews are up to date

When a session rests, its last cycle has read the text that the document now has, unless a change of
the document is still to be answered.

1. `Tracks` relates a session to its record: what was offered to the surface is what cycles have
   read, rendered; a session that rests has nothing left to read; and what the last cycle came to is
   what is live (`Shows`).
2. A cycle restores all of it, whatever it comes to (`Tracks.behind`). The other steps keep it,
   closing excepted (`Tracks.moves`).
-/

namespace LivePreview.Preview

open Guard (LoopGuard)

/-! ## What the record says -/

namespace Past

/-- The policy in force. -/
def policy (past : Past) : Scheduler.Policy := ⟨past.settings.debounce, past.settings.saveOnly⟩

/-- The documents that the texts read by cycles render to, under the guards of the cycles. -/
def rendered (engine : Engine) (past : Past) : List String :=
  past.cycles.filterMap fun cycle =>
    cycle.text.map fun text => (pageOf engine cycle.guard text).page

/-- Settings in force have come to a guard of their milliseconds. -/
theorem Guarded.guard {past : Past} (h : past.Guarded) :
    past.guard.milliseconds = past.settings.loopGuard := by
  induction past with
  | nil => exact LoopGuard.milliseconds_ofMilliseconds _
  | cons x past ih =>
    cases x with
    | opened | configured => exact h.1
    | edited | notified | read | created | displayed | released => exact ih h

/-- A cycle has gone by a guard of the milliseconds of its settings. -/
theorem Guarded.cycles {past : Past} (h : past.Guarded) :
    ∀ cycle ∈ past.cycles, cycle.guard.milliseconds = cycle.settings.loopGuard := by
  induction past with
  | nil => exact nofun
  | cons x past ih =>
    cases x with
    | opened | configured => exact ih h.2
    | edited | notified | created | displayed | released => exact ih h
    | read text =>
      intro cycle hc
      rcases List.mem_cons.mp hc with rfl | hc
      · exact h.guard
      · exact ih h cycle hc

/-- The document has changed, and no notice that counts has come since. -/
def unanswered : Past → Bool
  | [] => false
  | .edited _ :: _ => true
  | .notified change :: past => !(policy past).accepts change && unanswered past
  | _ :: past => unanswered past

/-- The document that an artifact was last made of. -/
def content (artifact : Artifact) : Past → Option String
  | [] => none
  | .created document (.ok made) :: past =>
    if made = artifact then some document else content artifact past
  | _ :: past => content artifact past

/-- The surface has made and shown an artifact of the document it was last offered. -/
def accepted : Past → Bool
  | [] => false
  | .created _ _ :: _ => false
  | .displayed _ (.ok _) :: _ => true
  | .displayed _ (.error _) :: _ => false
  | _ :: past => accepted past

/-- Every cycle has read the text that the document had at the time. -/
def Honest : Past → Prop
  | [] => True
  | .read text :: past => text = Past.text past ∧ Honest past
  | _ :: past => Honest past

end Past

/-! ## What is on the record of a cycle -/

section

variable {engine : Engine} {s : Session} {slot slot' : Slot} {past past' : Past}
  {document : String} {answer : Except SurfaceError Artifact} {outcome : Outcome}

/-- What a record says without regard to the surface, it says behind an installation. -/
theorem Installs.view_eq {β : Type} (view : Past → β)
    (hr : ∀ artifact past, view (.released artifact :: past) = view past)
    (hd : ∀ artifact answer past, view (.displayed artifact answer :: past) = view past)
    (hc : ∀ document answer past, view (.created document answer :: past) = view past)
    (hi : Installs past slot document answer slot' past') : view past' = view past := by
  cases hi with
  | shown artifact => rw [view_emptying view hr, hd, hc]
  | unmade e => rw [view_emptying view hr, hc]
  | unshown artifact e => rw [view_emptying view hr, hr, hd, hc]

/-- An installation offers one document. -/
theorem Installs.offered_eq (hi : Installs past slot document answer slot' past') :
    past'.offered = document :: past.offered := by
  cases hi <;> exact view_emptying Past.offered (fun _ _ => rfl) _ _

/-- The surface has accepted what an installation answers well. -/
theorem Installs.accepted_eq (hi : Installs past slot document answer slot' past') :
    past'.accepted = answer.isOk := by
  cases hi <;> exact view_emptying Past.accepted (fun _ _ => rfl) _ _

/-- The artifact that an installation answers is live and holds the document. -/
theorem Installs.live {artifact : Artifact}
    (hi : Installs past slot document (.ok artifact) slot' past') :
    slot'.live = some artifact ∧ past'.content artifact = some document := by
  cases hi with
  | shown =>
    refine ⟨rfl, ?_⟩
    rw [view_emptying (Past.content artifact) fun _ _ => rfl]
    exact if_pos rfl

/-- Behind a failed installation nothing is live. -/
theorem Installs.bare {e : SurfaceError}
    (hi : Installs past slot document (.error e) slot' past') : slot'.live = none := by
  cases hi <;> rfl

/-- What a record says without regard to cycles, it says behind a cycle. -/
theorem Cycles.view_eq {β : Type} (view : Past → β)
    (hr : ∀ artifact past, view (.released artifact :: past) = view past)
    (hd : ∀ artifact answer past, view (.displayed artifact answer :: past) = view past)
    (hc : ∀ document answer past, view (.created document answer :: past) = view past)
    (ht : ∀ past, view (.read (Past.text past) :: past) = view past)
    (h : Cycles engine s past outcome slot past') : view past' = view past := by
  have hread : ∀ text, past.text = text → view (.read text :: past) = view past := by
    intro text he
    rw [← he]
    exact ht past
  cases h with
  | skipped he => exact hread none he
  | shown text artifact slot past' he hi =>
    exact (hi.view_eq view hr hd hc).trans (hread (some text) he)
  | failed text e slot past' he hi =>
    exact (hi.view_eq view hr hd hc).trans (hread (some text) he)

/-- A cycle reads the text of the document. -/
theorem Cycles.cycles_eq (h : Cycles engine s past outcome slot past') :
    past'.cycles = ⟨past.settings, past.guard, past.text⟩ :: past.cycles := by
  cases h with
  | skipped he => rw [he]; rfl
  | shown text artifact slot past' he hi =>
    rw [hi.view_eq Past.cycles (fun _ _ => rfl) (fun _ _ _ => rfl) fun _ _ _ => rfl, he]
    rfl
  | failed text e slot past' he hi =>
    rw [hi.view_eq Past.cycles (fun _ _ => rfl) (fun _ _ _ => rfl) fun _ _ _ => rfl, he]
    rfl

/-- What is offered is what cycles have read, rendered under the guard in force. -/
theorem Cycles.offered_eq (h : Cycles engine s past outcome slot past')
    (hg : s.guard = past.guard) (ho : past.offered = past.rendered engine) :
    past'.offered = past'.rendered engine := by
  unfold Past.rendered at ho ⊢
  rw [h.cycles_eq]
  cases h with
  | skipped he => rw [he]; exact ho
  | shown text artifact slot past' he hi =>
    rw [hi.offered_eq, he, hg]
    exact congrArg _ ho
  | failed text e slot past' he hi =>
    rw [hi.offered_eq, he, hg]
    exact congrArg _ ho

/-! ## What cycles come to -/

/-- What an outcome says of the slot before and behind the cycle. -/
def Outcome.Leaves (before behind : Slot) : Outcome → Prop
  | .rendered location | .diagnostic location _ =>
    ∃ artifact, behind.live = some artifact ∧ artifact.location = location
  | .skipped => behind = before
  | .surfaceFailed _ => behind.live = none

theorem Outcome.leaves_ofRendered (page : Rendered) (artifact : Artifact) (before behind : Slot)
    (hl : behind.live = some artifact) :
    (Outcome.ofRendered page artifact.location).Leaves before behind := by
  cases page <;> exact ⟨artifact, hl, rfl⟩

/-- The outcome of a cycle tells what has become of the slot. -/
theorem Cycles.leaves (h : Cycles engine s past outcome slot past') :
    outcome.Leaves s.slot slot := by
  cases h with
  | skipped he => exact rfl
  | shown text artifact slot past' he hi => exact Outcome.leaves_ofRendered _ _ _ _ hi.live.1
  | failed text e slot past' he hi => exact hi.bare

/-- The artifact of a text is live: it holds the page of the text, and the last outcome names it. -/
def Holds (engine : Engine) (guard : LoopGuard) (text : String) (s : Session) (past : Past) :
    Prop :=
  ∃ artifact, s.slot.live = some artifact ∧
    s.last = some (.ofRendered (pageOf engine guard text) artifact.location) ∧
    past.content artifact = some (pageOf engine guard text).page

/-- The surface has failed and nothing is live. -/
def Session.Bare (s : Session) : Prop :=
  s.slot.live = none ∧ ∃ message, s.last = some (.surfaceFailed message)

/-- What the last cycle has read is what the session shows, if the surface took it. -/
def Shows (engine : Engine) (s : Session) (past : Past) : Prop :=
  match past.cycles.head? with
  | none => s.last = none
  | some ⟨_, _, none⟩ => s.last = some .skipped
  | some ⟨_, guard, some text⟩ =>
    if past.accepted then Holds engine guard text s past else s.Bare

/-- Behind a cycle the session shows what the cycle has read. -/
theorem Cycles.shows (h : Cycles engine s past outcome slot past')
    (hg : s.guard = past.guard) : Shows engine (s.behind outcome slot) past' := by
  unfold Shows
  rw [h.cycles_eq]
  cases h with
  | skipped he => rw [he]; exact rfl
  | shown text artifact slot past' he hi =>
    rw [hg] at hi ⊢
    rw [he]
    show if past'.accepted then _ else _
    rw [hi.accepted_eq]
    exact ⟨artifact, hi.live.1, rfl, hi.live.2⟩
  | failed text e slot past' he hi =>
    rw [he]
    show if past'.accepted then _ else _
    rw [hi.accepted_eq]
    exact ⟨hi.bare, e.message, rfl⟩

/-! ## The invariant -/

/-- How a session that is not closed relates to its record. -/
structure Tracks (engine : Engine) (s : Session) (past : Past) : Prop where
  guard : s.guard = past.guard
  guarded : past.Guarded
  saveOnly : s.scheduler.saveOnly = past.policy.saveOnly
  phase : s.scheduler.phase = .idle ∨ ∃ deadline, s.scheduler.phase = .scheduled deadline
  cycles : s.cycles = past.cycles.length
  offered : past.offered = past.rendered engine
  honest : past.Honest
  /-- At rest, without an unanswered change, the last cycle has read the text. -/
  current : s.scheduler.phase = .idle → past.unanswered = false →
    ∀ cycle, past.cycles.head? = some cycle → cycle.text = past.text
  shows : Shows engine s past

theorem Tracks.opened (engine : Engine) {settings : Settings} {guard : LoopGuard}
    (hg : guard.milliseconds = settings.loopGuard) (text : Option String) :
    Tracks engine (Session.opened settings guard) [.opened settings guard text] where
  guard := rfl
  guarded := ⟨hg, trivial⟩
  saveOnly := rfl
  phase := .inl rfl
  cycles := rfl
  offered := rfl
  honest := trivial
  current _ _ _ h := nomatch h
  shows := rfl

/-- A cycle restores the invariant, whatever it comes to. -/
theorem Tracks.behind (ht : Tracks engine s past) (hc : Cycles engine s past outcome slot past') :
    Tracks engine (s.behind outcome slot) past' := by
  have hsettings : past'.settings = past.settings :=
    hc.view_eq Past.settings (fun _ _ => rfl) (fun _ _ _ => rfl) (fun _ _ _ => rfl) fun _ => rfl
  have htext : past'.text = past.text :=
    hc.view_eq Past.text (fun _ _ => rfl) (fun _ _ _ => rfl) (fun _ _ _ => rfl) fun _ => rfl
  have hguard : past'.guard = past.guard :=
    hc.view_eq Past.guard (fun _ _ => rfl) (fun _ _ _ => rfl) (fun _ _ _ => rfl) fun _ => rfl
  have hguarded : past'.Guarded = past.Guarded :=
    hc.view_eq Past.Guarded (fun _ _ => rfl) (fun _ _ _ => rfl) (fun _ _ _ => rfl) fun _ => rfl
  have hhonest : past'.Honest = past.Honest :=
    hc.view_eq Past.Honest (fun _ _ => rfl) (fun _ _ _ => rfl) (fun _ _ _ => rfl) fun _ =>
      propext ⟨And.right, fun h => ⟨rfl, h⟩⟩
  refine ⟨ht.guard.trans hguard.symm, ?_, ?_, .inl rfl, ?_, hc.offered_eq ht.guard ht.offered, ?_,
    ?_, hc.shows ht.guard⟩
  · rw [hguarded]
    exact ht.guarded
  · unfold Past.policy
    rw [hsettings]
    exact ht.saveOnly
  · rw [hc.cycles_eq]
    exact congrArg (· + 1) ht.cycles
  · rw [hhonest]
    exact ht.honest
  · intro _ _ read hr
    rw [hc.cycles_eq] at hr
    cases hr
    exact htext.symm

/-- A notice that counts arms the timer; another changes nothing. -/
theorem Tracks.notified (ht : Tracks engine s past) (change : Change) (now : Int) :
    Tracks engine { s with scheduler := (s.scheduler.notify change now).2 }
      (.notified change :: past) := by
  have hpolicy : s.scheduler.accepts change = past.policy.accepts change := by
    unfold Scheduler.accepts Scheduler.Policy.accepts
    rw [ht.saveOnly]
  rw [Scheduler.notify_waiting ht.phase, hpolicy]
  by_cases ha : past.policy.accepts change = true
  · rw [if_pos ha]
    exact ⟨ht.guard, ht.guarded, ht.saveOnly, .inr ⟨_, rfl⟩, ht.cycles, ht.offered, ht.honest,
      fun hi => (nomatch hi), ht.shows⟩
  · rw [if_neg ha]
    refine ⟨ht.guard, ht.guarded, ht.saveOnly, ht.phase, ht.cycles, ht.offered, ht.honest,
      fun hi hu => ?_, ht.shows⟩
    have hun : past.unanswered = false := by
      unfold Past.unanswered at hu
      rw [eq_false_of_ne_true ha] at hu
      exact hu
    exact ht.current hi hun

/-- Every step keeps the invariant, closing excepted. -/
theorem Tracks.moves {step : Step} {s' : Session} (ht : Tracks engine s past)
    (hm : Moves engine s past step s' past') (hc : step ≠ .close) : Tracks engine s' past' := by
  cases hm with
  | edited text =>
    exact ⟨ht.guard, ht.guarded, ht.saveOnly, ht.phase, ht.cycles, ht.offered, ht.honest,
      fun _ hu => (nomatch hu), ht.shows⟩
  | notified change now => exact ht.notified change now
  | configured settings guard hg =>
    exact ⟨rfl, ⟨hg, ht.guarded⟩, rfl, ht.phase, ht.cycles, ht.offered, ht.honest, ht.current,
      ht.shows⟩
  | waited now hn => exact ht
  | polled now deadline outcome slot past' hs hd hcycle => exact ht.behind hcycle
  | activated now outcome slot past' hs hcycle => exact ht.behind hcycle
  | ignored now hs =>
    -- the timer of an open session can be set
    refine absurd ?_ (hs now)
    unfold Scheduler.scheduleNow
    rcases ht.phase with hp | ⟨deadline, hp⟩ <;> rw [hp]
  | closed => exact absurd rfl hc

/-- Every run keeps the invariant, if the session is not closed. -/
theorem Leads.tracks {σ : Type} {surface : Surface (StateT σ (StateM Sandbox))} {steps : List Step}
    {s' : Session} (ht : Tracks engine s past) (hc : .close ∉ steps)
    (h : Leads (s.takeAll engine surface steps) past s' past') : Tracks engine s' past' :=
  Leads.takeAll_induction (motive := Tracks engine)
    (fun _ hmem _ _ _ _ ht hm => ht.moves hm fun he => hc (he ▸ hmem)) ht h

/-- A step runs no cycle and leaves what is live, or it runs one and leaves what that came to. -/
theorem Moves.effect {step : Step} {s' : Session} (hm : Moves engine s past step s' past')
    (hc : step ≠ .close) :
    (s'.cycles = s.cycles ∧ s'.slot = s.slot ∧ s'.last = s.last) ∨
      (s'.cycles = s.cycles + 1 ∧
        ∃ outcome, s'.last = some outcome ∧ outcome.Leaves s.slot s'.slot) := by
  cases hm with
  | edited | notified | configured | waited | ignored => exact .inl ⟨rfl, rfl, rfl⟩
  | polled now deadline outcome slot past' hs hd hcycle =>
    exact .inr ⟨rfl, outcome, rfl, hcycle.leaves⟩
  | activated now outcome slot past' hs hcycle => exact .inr ⟨rfl, outcome, rfl, hcycle.leaves⟩
  | closed => exact absurd rfl hc

end

/-! ## The main theorem -/

/-- **Previews are up to date.** Behind every run of a session that is not closed, whatever the
surface answers:

1. What the surface was offered is, in order, what the texts read by cycles render to, each under
   the guard in force, which has the milliseconds of the settings in force; and each was the text
   that the document had at the time.
2. The session rests or its timer is set.
3. If it rests, a cycle has run and every change of the document was answered by a notice that
   counts, then the last cycle has read the text that the document has. If the surface took it, its
   artifact is live, holds what the text renders to under the guard of that cycle, and is the one
   that the last outcome names; otherwise nothing is live.
4. A further step runs no cycle and leaves what is live, or it runs one. A cycle without a document
   leaves what is live, a failure of the surface leaves nothing, and the other outcomes name what is
   live. -/
theorem preview_up_to_date {σ : Type} (engine : Engine)
    (surface : Surface (StateT σ (StateM Sandbox))) (settings : Settings) (text : Option String)
    (steps : List Step) (s : Session) (past : Past) (hc : .close ∉ steps)
    (h : Leads (Session.play engine surface settings text steps) [] s past) :
    (past.offered = past.rendered engine ∧ past.Honest ∧ s.cycles = past.cycles.length ∧
      ∀ cycle ∈ past.cycles, cycle.guard.milliseconds = cycle.settings.loopGuard) ∧
    (s.scheduler.phase = .idle ∨ ∃ deadline, s.scheduler.phase = .scheduled deadline) ∧
    (s.scheduler.phase = .idle → 0 < s.cycles → past.unanswered = false →
      ∃ settings guard, past.cycles.head? = some ⟨settings, guard, past.text⟩ ∧
        ∀ text, past.text = some text →
          if past.accepted then Holds engine guard text s past else s.Bare) ∧
    ∀ step s' past', step ≠ .close → Leads (s.take engine surface step) past s' past' →
      (s'.cycles = s.cycles ∧ s'.slot = s.slot ∧ s'.last = s.last) ∨
        (s'.cycles = s.cycles + 1 ∧
          ∃ outcome, s'.last = some outcome ∧ outcome.Leaves s.slot s'.slot) := by
  obtain ⟨guard, hg, hplay⟩ := h.of_play
  have ht := hplay.tracks (.opened engine hg text) hc
  refine ⟨⟨ht.offered, ht.honest, ht.cycles, ht.guarded.cycles⟩, ht.phase, fun hi hpos hu => ?_,
    fun step s' past' hne h' => h'.of_take.effect hne⟩
  cases hr : past.cycles.head? with
  | none =>
    rw [ht.cycles, List.head?_eq_none_iff.mp hr] at hpos
    exact absurd hpos (Nat.lt_irrefl 0)
  | some cycle =>
    obtain ⟨settings, guard, text'⟩ := cycle
    have htext : text' = past.text := ht.current hi hu _ hr
    refine ⟨settings, guard, by rw [htext], fun text hp => ?_⟩
    have hs := ht.shows
    unfold Shows at hs
    rw [hr, htext, hp] at hs
    exact hs

/-- On the surface in memory two edits in one window are rendered once, at the end of it, and what
is then live holds the second. -/
theorem preview_up_to_date_memory :
    let surface : Surface (StateT LivePreview.Surface.Memory (StateM Sandbox)) :=
      LivePreview.Surface.Memory.surface
    let engine : Engine := fun _ _ => .ok none
    let played := Session.play engine surface .default none [.activate 0, .edit (some "a"),
      .notify .edit 10, .edit (some "b"), .notify .edit 20, .poll 510, .poll 520] []
      LivePreview.Surface.Memory.empty Sandbox.empty
    played.1.1.1.scheduler.phase = .idle ∧ played.1.1.1.cycles = 2 ∧
      played.1.1.2.unanswered = false ∧ played.1.1.2.accepted = true ∧
      played.1.1.2.rendered engine = [(pageOf engine ⟨Settings.default.budget⟩ "b").page] ∧
      Holds engine ⟨Settings.default.budget⟩ "b" played.1.1.1 played.1.1.2 := by
  intro surface engine played
  have hp := preview_up_to_date engine surface .default none _ played.1.1.1 played.1.1.2
    (by decide) ⟨_, _, rfl⟩
  have hphase : played.1.1.1.scheduler.phase = .idle := by decide
  have hu : played.1.1.2.unanswered = false := by decide
  have ha : played.1.1.2.accepted = true := by decide
  have hn : played.1.1.1.cycles = 2 := by decide
  refine ⟨hphase, hn, hu, ha, rfl, ?_⟩
  obtain ⟨settings, guard, hr, hs⟩ := hp.2.2.1 hphase (by rw [hn]; decide) hu
  have hhead : played.1.1.2.cycles.head? =
      some ⟨.default, ⟨Settings.default.budget⟩, some "b"⟩ := by decide
  have hguard : ⟨Settings.default.budget⟩ = guard :=
    congrArg Reading.guard (Option.some.inj (hhead.symm.trans hr))
  have hb := hs "b" rfl
  rw [ha, ← hguard] at hb
  exact hb

end LivePreview.Preview
