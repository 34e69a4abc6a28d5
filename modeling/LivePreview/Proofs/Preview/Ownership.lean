import LivePreview.Proofs.Preview.Recorded
import LivePreview.Surface.Memory

/-!
# One artifact at a time

What a slot and a session have in hand is what they have to take back.

1. Whatever the surface answers, the artifacts that were made are, in some order, the live one and
   those that were taken back (`Balanced`). Installing and emptying keep this.
2. If no artifact was made twice, none was taken back twice, and those not taken back are the live
   one (`Balanced.outstanding_eq`).
3. Behind the closing of a session its slot is empty and its timer is off for good (`Shut`).
-/

namespace LivePreview.Preview

open Guard (LoopGuard)

/-- The artifacts that were made and not taken back. -/
def Past.outstanding (past : Past) : List Artifact :=
  past.made.filter fun artifact => artifact ∉ past.taken

/-- No artifact was made that had been made before. -/
def Past.Fresh (past : Past) : Prop := past.made.Nodup

/-- What was made is live or was taken back. -/
def Balanced (slot : Slot) (past : Past) : Prop :=
  past.made.Perm (slot.live.toList ++ past.taken)

/-! ## What is on the record of an emptying -/

section

variable {slot slot' : Slot} {past past' : Past}

theorem taken_emptying (slot : Slot) (past : Past) :
    (slot.emptying ++ past).taken = slot.live.toList ++ past.taken := by
  unfold Slot.emptying
  cases slot.live <;> rfl

/-! ## Balance -/

theorem Balanced.empty : Balanced .empty [] := List.Perm.refl _

theorem Balanced.opened (settings : Settings) (guard : LoopGuard) (text : Option String) :
    Balanced (Session.opened settings guard).slot [.opened settings guard text] := List.Perm.refl _

/-- Emptying a slot keeps the balance. -/
theorem Balanced.emptying (hb : Balanced slot past) : Balanced .empty (slot.emptying ++ past) := by
  unfold Balanced at hb ⊢
  rw [view_emptying Past.made fun _ _ => rfl, taken_emptying]
  exact hb

/-- Installing keeps the balance, whatever the surface answers. -/
theorem Installs.balanced {document : String} {answer : Except SurfaceError Artifact}
    (hi : Installs past slot document answer slot' past') (hb : Balanced slot past) :
    Balanced slot' past' := by
  unfold Balanced at hb ⊢
  cases hi with
  | shown artifact =>
    rw [view_emptying Past.made fun _ _ => rfl, taken_emptying]
    exact hb.cons artifact
  | unmade e =>
    rw [view_emptying Past.made fun _ _ => rfl, taken_emptying]
    exact hb
  | unshown artifact e =>
    rw [view_emptying Past.made fun _ _ => rfl, taken_emptying]
    exact (hb.cons artifact).trans List.perm_middle.symm

/-- In a balanced record without repetition nothing is taken back twice. -/
theorem Balanced.taken_nodup (hb : Balanced slot past) (hf : past.Fresh) : past.taken.Nodup :=
  (List.nodup_append.mp (hb.nodup_iff.mp hf)).2.1

/-- In a balanced record without repetition, what is outstanding is what is live. -/
theorem Balanced.outstanding_eq (hb : Balanced slot past) (hf : past.Fresh) :
    past.outstanding = slot.live.toList := by
  have hd := (List.nodup_append.mp (hb.nodup_iff.mp hf)).2.2
  have hlive : slot.live.toList.filter (fun artifact => artifact ∉ past.taken) =
      slot.live.toList := by
    refine List.filter_eq_self.mpr fun artifact hm => decide_eq_true fun ht => ?_
    exact hd artifact hm artifact ht rfl
  have htaken : past.taken.filter (fun artifact => artifact ∉ past.taken) = [] := by
    refine List.filter_eq_nil_iff.mpr fun artifact hm => ?_
    rw [decide_eq_true_eq, Decidable.not_not]
    exact hm
  have hp : past.outstanding.Perm slot.live.toList := by
    have hfilter := hb.filter fun artifact => artifact ∉ past.taken
    rw [List.filter_append, hlive, htaken, List.append_nil] at hfilter
    exact hfilter
  cases hl : slot.live with
  | none => rw [hl] at hp; exact hp.eq_nil
  | some artifact => rw [hl] at hp; exact hp.eq_singleton

end

/-! ## Slots -/

/-- What is done with a slot. -/
inductive Slot.Step where
  | install (document : String)
  | clear
deriving DecidableEq, Repr

variable {σ : Type}

/-- Steps of a slot, on a surface. -/
def Slot.takeAll {m : Type → Type} [Monad m] (surface : Surface m) : Slot → List Slot.Step → m Slot
  | slot, [] => return slot
  | slot, .install document :: steps => do
    let (_, slot) ← slot.install surface document
    slot.takeAll surface steps
  | slot, .clear :: steps => do
    let slot ← slot.clear surface
    slot.takeAll surface steps

section

variable {slot slot' : Slot} {past past' : Past} {surface : Surface (StateT σ (StateM Sandbox))}

/-- Every run of a slot keeps the balance. -/
theorem Leads.balanced_slot {steps : List Slot.Step} (hb : Balanced slot past)
    (h : Leads (slot.takeAll surface.recorded steps) past slot' past') : Balanced slot' past' := by
  induction steps generalizing slot past with
  | nil =>
    obtain ⟨rfl, rfl⟩ := h.of_pure
    exact hb
  | cons step steps ih =>
    cases step with
    | install document =>
      obtain ⟨⟨answer, installed⟩, mid, h₁, h⟩ := h.of_bind
      exact ih (h₁.of_install.balanced hb) h
    | clear =>
      obtain ⟨cleared, mid, h₁, h⟩ := h.of_bind
      obtain ⟨rfl, rfl⟩ := h₁.of_clear
      exact ih hb.emptying h

end

/-! ## Sessions -/

section

variable {engine : Engine} {s s' : Session} {past past' : Past} {step : Step}

theorem Cycles.balanced {outcome : Outcome} {slot : Slot}
    (hc : Cycles engine s past outcome slot past') (hb : Balanced s.slot past) :
    Balanced slot past' := by
  cases hc with
  | skipped ht => exact hb
  | shown text artifact slot past' ht hi => exact hi.balanced hb
  | failed text e slot past' ht hi => exact hi.balanced hb

/-- Every step of a session keeps the balance. -/
theorem Moves.balanced (hm : Moves engine s past step s' past') (hb : Balanced s.slot past) :
    Balanced s'.slot past' := by
  cases hm with
  | edited | notified | configured | waited | ignored => exact hb
  | polled now deadline outcome slot past' hs hd hc => exact hc.balanced hb
  | activated now outcome slot past' hs hc => exact hc.balanced hb
  | closed => exact hb.emptying

/-- Every run of a session keeps the balance. -/
theorem Leads.balanced {surface : Surface (StateT σ (StateM Sandbox))} {steps : List Step}
    (hb : Balanced s.slot past) (h : Leads (s.takeAll engine surface steps) past s' past') :
    Balanced s'.slot past' :=
  Leads.takeAll_induction (motive := fun s past => Balanced s.slot past)
    (fun _ _ _ _ _ _ hb hm => hm.balanced hb) hb h

/-- The session is closed, has nothing in hand, and has run `n` cycles. -/
structure Shut (n : Nat) (offered : List String) (s : Session) (past : Past) : Prop where
  phase : s.scheduler.phase = .closed
  slot : s.slot = .empty
  cycles : s.cycles = n
  offered : past.offered = offered

/-- Closing a session shuts it. -/
theorem Moves.shut (hm : Moves engine s past .close s' past') :
    Shut s.cycles past.offered s' past' := by
  cases hm with
  | closed => exact ⟨rfl, rfl, rfl, view_emptying Past.offered (fun _ _ => rfl) _ _⟩

/-- A closed session stays shut. -/
theorem Shut.moves {n : Nat} {offered : List String} (hs : Shut n offered s past)
    (hm : Moves engine s past step s' past') : Shut n offered s' past' := by
  cases hm with
  | edited text => exact ⟨hs.phase, hs.slot, hs.cycles, hs.offered⟩
  | notified change now =>
    refine ⟨?_, hs.slot, hs.cycles, hs.offered⟩
    show (s.scheduler.notify change now).2.phase = .closed
    unfold Scheduler.notify Scheduler.isClosed
    rw [hs.phase]
    exact hs.phase
  | configured settings => exact ⟨hs.phase, hs.slot, hs.cycles, hs.offered⟩
  | waited now hn => exact hs
  | polled now deadline outcome slot past' hp hd hc => rw [hs.phase] at hp; cases hp
  | activated now outcome slot past' hp hc =>
    unfold Scheduler.scheduleNow at hp
    rw [hs.phase] at hp
    exact nomatch hs.phase.symm.trans hp
  | ignored now hp =>
    refine ⟨?_, hs.slot, hs.cycles, hs.offered⟩
    show (s.scheduler.scheduleNow now).phase = .closed
    unfold Scheduler.scheduleNow
    rw [hs.phase]
    exact hs.phase
  | closed =>
    exact ⟨rfl, rfl, hs.cycles, (view_emptying Past.offered (fun _ _ => rfl) _ _).trans hs.offered⟩

/-- What is done with a session behind its closing changes nothing. -/
theorem Leads.shut {surface : Surface (StateT σ (StateM Sandbox))} {steps : List Step}
    (h : Leads (s.takeAll engine surface (.close :: steps)) past s' past') :
    Shut s.cycles past.offered s' past' := by
  obtain ⟨between, mid, h₁, h⟩ := h.of_bind
  exact Leads.takeAll_induction (motive := Shut s.cycles past.offered)
    (fun _ _ _ _ _ _ hs hm => hs.moves hm) h₁.of_take.shut h

end

/-! ## The main theorem -/

/-- **One artifact at a time.** For every surface, and whatever it answers, if it makes no artifact
twice:

1. Behind every run of a slot the artifacts made and not taken back are the live one, and none was
   taken back twice.
2. An installation shows the new artifact before the old one is taken back; one that fails takes
   back what it made and the old one, and leaves the slot empty.
3. The same as 1 holds behind every run of a session, so that one artifact is live at most.
4. From the first closing on none is live, and no document is offered, and no cycle runs. -/
theorem one_artifact_at_a_time (surface : Surface (StateT σ (StateM Sandbox))) :
    (∀ steps slot past, Leads (Slot.empty.takeAll surface.recorded steps) [] slot past →
      past.Fresh → past.outstanding = slot.live.toList ∧ past.taken.Nodup) ∧
    (∀ document slot past answer slot' past',
      Leads (slot.install surface.recorded document) past (answer, slot') past' →
        Installs past slot document answer slot' past') ∧
    ∀ engine settings text steps s past,
      Leads (Session.play engine surface settings text steps) [] s past →
        (past.Fresh → past.outstanding = s.slot.live.toList ∧ past.outstanding.length ≤ 1 ∧
          past.taken.Nodup) ∧
        ∀ more s' past', Leads (s.takeAll engine surface (.close :: more)) past s' past' →
          s'.slot.live = none ∧ (past'.Fresh → past'.outstanding = []) ∧
          past'.offered = past.offered ∧ s'.cycles = s.cycles := by
  refine ⟨fun steps slot past h hf => ?_, fun document slot past answer slot' past' h =>
    h.of_install, fun engine settings text steps s past h => ?_⟩
  · have hb := h.balanced_slot .empty
    exact ⟨hb.outstanding_eq hf, hb.taken_nodup hf⟩
  · obtain ⟨guard, -, hplay⟩ := h.of_play
    have hb := hplay.balanced (.opened settings guard text)
    refine ⟨fun hf => ⟨hb.outstanding_eq hf, ?_, hb.taken_nodup hf⟩, fun more s' past' h' => ?_⟩
    · rw [hb.outstanding_eq hf]
      exact Option.length_toList_le
    · have hs := h'.shut
      have hb' := h'.balanced hb
      refine ⟨congrArg Slot.live hs.slot, fun hf => ?_, hs.offered, hs.cycles⟩
      rw [hb'.outstanding_eq hf, hs.slot]
      rfl

/-- On the surface in memory two installations leave the second artifact, and so do an opening and a
cycle of a session; an opening behind its closing leaves none. -/
theorem one_artifact_at_a_time_memory :
    let surface : Surface (StateT LivePreview.Surface.Memory (StateM Sandbox)) :=
      LivePreview.Surface.Memory.surface
    let engine : Engine := fun _ _ => .ok none
    let filled := Slot.empty.takeAll surface.recorded [.install "a", .install "b"] []
      LivePreview.Surface.Memory.empty Sandbox.empty
    let played := Session.play engine surface .default (some "a") [.activate 0, .edit (some "b"),
      .notify .save 10, .poll 510] [] LivePreview.Surface.Memory.empty Sandbox.empty
    let shut := played.1.1.1.takeAll engine surface [.close, .activate 600] played.1.1.2 played.1.2
      played.2
    filled.1.1.2.Fresh ∧ filled.1.1.2.outstanding.map Artifact.id = [2] ∧
      played.1.1.2.Fresh ∧ played.1.1.2.outstanding.map Artifact.id = [2] ∧
      shut.1.1.2.Fresh ∧ shut.1.1.2.outstanding = [] ∧ shut.1.1.1.cycles = 2 := by
  intro surface engine filled played shut
  have hs := one_artifact_at_a_time surface
  have hp := hs.2.2 engine _ _ _ played.1.1.1 played.1.1.2 ⟨_, _, rfl⟩
  have hc := hp.2 [.activate 600] shut.1.1.1 shut.1.1.2 ⟨played.1.2, played.2, rfl⟩
  have hf₁ : filled.1.1.2.made.Nodup := by decide
  have hf₂ : played.1.1.2.made.Nodup := by decide
  have hf₃ : shut.1.1.2.made.Nodup := by decide
  refine ⟨hf₁, ?_, hf₂, ?_, hf₃, hc.2.1 hf₃, hc.2.2.2⟩
  · rw [(hs.1 _ filled.1.1.1 filled.1.1.2 ⟨_, _, rfl⟩ hf₁).1]
    rfl
  · rw [(hp.1 hf₂).1]
    rfl

end LivePreview.Preview
