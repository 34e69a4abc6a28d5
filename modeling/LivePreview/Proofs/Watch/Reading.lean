import LivePreview.Proofs.Watch.Turns

/-!
# What a log says

What is read off the log of a loop, and what a cycle adds to it.

1. `handled` lists the signals as they are handled, `started` the times at which cycles start,
   `accepted` the times at which changes that count are handled, and `saved` those of saves whose
   turns find the program not closing.
2. A change is `unanswered` until a cycle starts. Hence, if none is and time does not go back, the
   last cycle starts no earlier than the last change that counts (`le_started_of_answered`).
3. On a `Prompt` log a cycle starts right behind the poll of each save.
-/

namespace LivePreview.Watch

open Files (FileError)
open Preview (Happening Past Session)
open Settings (Handle Layer)

namespace Log

variable {α : Type}

/-- What is found in a log, latest first. -/
def collect (f : Event → Log → Option α) : Log → List α
  | [] => []
  | e :: log => (f e log).toList ++ collect f log

theorem collect_of_none {f : Event → Log → Option α} {e : Event} {log : Log} (h : f e log = none) :
    collect f (e :: log) = collect f log := by
  rw [collect, h]
  rfl

theorem collect_of_some {f : Event → Log → Option α} {e : Event} {log : Log} {a : α}
    (h : f e log = some a) : collect f (e :: log) = a :: collect f log := by
  rw [collect, h]
  rfl

/-- The answers to whether the program is closing. -/
def asked (log : Log) : List Bool :=
  log.collect fun e _ =>
    match e with
    | .asked closing => some closing
    | _ => none

/-- What was read of the settings file. -/
def loads (log : Log) : List (Except FileError ByteArray) :=
  log.collect fun e _ =>
    match e with
    | .loaded file => some file
    | _ => none

/-- The times that were told. -/
def times (log : Log) : List Int :=
  log.collect fun e _ =>
    match e with
    | .told now _ => some now
    | _ => none

/-- Time does not go back. -/
def Ascending (log : Log) : Prop := log.times.Pairwise (· ≥ ·)

/-- A signal is handled: for a change the clock is read, for others the settings file. -/
def handling? : Event → Log → Option Signal
  | .told _ _, .received (some (.changed change)) :: _ => some (.changed change)
  | .loaded _, .received (some .settingsChanged) :: _ => some .settingsChanged
  | _, _ => none

/-- The signals that were handled, in order. -/
def handled (log : Log) : List Signal := (log.collect handling?).reverse

/-- A cycle starts: the document is read right behind the clock. -/
def starting? : Event → Log → Option Int
  | .happened (.read _), .told now _ :: _ => some now
  | _, _ => none

/-- The times at which cycles started. -/
def started (log : Log) : List Int := log.collect starting?

/-- When the save was handled that was handled last of all that happened. -/
def saving? : Log → Option Int
  | .told now _ :: .received (some (.changed .save)) :: _ => some now
  | _ => none

/-- The times at which saves were handled, in turns that found the program not closing. -/
def saved (log : Log) : List Int :=
  log.collect fun e before =>
    match e with
    | .asked false => saving? before
    | _ => none

/-- A save was handled, the program is not closing, and the clock was read for a poll. -/
def Awaits : Log → Prop
  | .told _ _ :: .asked false :: before => (saving? before).isSome = true
  | _ => False

/-- A cycle starts right behind the poll of each save. -/
def Prompt : Log → Prop
  | [] => True
  | e :: log => (Awaits log → ∃ text, e = .happened (.read text)) ∧ Prompt log

/-- The last event is one that ends turns. -/
inductive Rests : Log → Prop where
  | told (now : Int) (text : Option String) (log : Log) : Rests (.told now text :: log)
  | happened (x : Happening) (log : Log) : Rests (.happened x :: log)

/-- An event that is neither the handling of a signal nor the start of a cycle. -/
inductive Passive : Event → Log → Prop where
  | told (now : Int) (text : Option String) (log : Log)
      (h : ∀ signal before, log ≠ .received signal :: before) : Passive (.told now text) log
  | arrived (signals : List Signal) (log : Log) : Passive (.arrived signals) log
  | received (log : Log) : Passive (.received none) log
  | asked (closing : Bool) (log : Log) : Passive (.asked closing) log

section

variable (path : String) (overrides : Layer) (start : Handle)

/-- The settings in force, and the digest of what they come from. -/
def handle (log : Log) : Handle :=
  log.loads.foldr (fun file h => (h.reload path overrides file).2) start

/-- A change is handled that counts under the settings in force. -/
def accepting? : Event → Log → Option Int
  | .told now _, .received (some (.changed change)) :: before =>
    if (handle path overrides start before).current.saveOnly = false ∨ change = .save then some now
    else none
  | _, _ => none

/-- The times at which changes that count were handled. -/
def accepted (log : Log) : List Int := log.collect (accepting? path overrides start)

/-- A change that counts was handled, and no cycle has started since. -/
def unanswered : Log → Bool
  | [] => false
  | e :: log =>
    (starting? e log).isNone &&
      ((accepting? path overrides start e log).isSome || unanswered log)

/-- Only saves counted at all times. -/
def SaveOnly : Log → Prop
  | [] => start.current.saveOnly = true
  | e :: log => (Log.handle path overrides start (e :: log)).current.saveOnly = true ∧ SaveOnly log

instance decidableSaveOnly : (log : Log) → Decidable (log.SaveOnly path overrides start)
  | [] => inferInstanceAs (Decidable (_ = true))
  | _ :: log =>
    have := decidableSaveOnly log
    inferInstanceAs (Decidable (_ = true ∧ SaveOnly path overrides start log))

end

instance (log : Log) : Decidable log.Ascending :=
  inferInstanceAs (Decidable (log.times.Pairwise _))

/-! ## Earlier logs -/

theorem collect_suffix (f : Event → Log → Option α) {log log' : Log} (h : log <:+ log') :
    log.collect f <:+ log'.collect f := by
  obtain ⟨new, rfl⟩ := h
  induction new with
  | nil => exact List.suffix_rfl
  | cons e new ih => exact ih.trans (List.suffix_append _ _)

/-- If time did not go back it had not gone back before. -/
theorem Ascending.of_suffix {log log' : Log} (ha : log'.Ascending) (h : log <:+ log') :
    log.Ascending := ha.sublist (collect_suffix _ h).sublist

section

variable {path : String} {overrides : Layer} {start : Handle} {log log' : Log}

theorem SaveOnly.of_suffix (hs : log'.SaveOnly path overrides start) (h : log <:+ log') :
    log.SaveOnly path overrides start := by
  obtain ⟨new, rfl⟩ := h
  induction new with
  | nil => exact hs
  | cons e new ih => exact ih hs.2

/-- The settings in force count saves only. -/
theorem SaveOnly.handle_saveOnly (hs : log.SaveOnly path overrides start) :
    (log.handle path overrides start).current.saveOnly = true := by
  cases log with
  | nil => exact hs
  | cons e log => exact hs.1

theorem handle_loaded (file : Except FileError ByteArray) :
    handle path overrides start (.loaded file :: log) =
      ((log.handle path overrides start).reload path overrides file).2 := by
  unfold handle loads
  rw [collect_of_some rfl, List.foldr_cons]

theorem handle_received (signal : Option Signal) :
    handle path overrides start (.received signal :: log) = log.handle path overrides start := by
  unfold handle loads
  rw [collect_of_none rfl]

theorem unanswered_of_none {e : Event} (hs : starting? e log = none)
    (ha : accepting? path overrides start e log = none) :
    unanswered path overrides start (e :: log) = log.unanswered path overrides start := by
  rw [unanswered, hs, ha]
  rfl

theorem accepted_subset_times : log.accepted path overrides start ⊆ log.times := by
  induction log with
  | nil => exact List.nil_subset _
  | cons e log ih =>
    unfold accepted
    cases ha : accepting? path overrides start e log with
    | none =>
      rw [collect_of_none ha]
      exact List.Subset.trans ih (List.subset_append_right _ _)
    | some now =>
      rw [collect_of_some ha]
      -- What is found is the time that was just told.
      unfold accepting? at ha
      split at ha
      · split at ha
        · cases ha
          exact List.cons_subset_cons _ ih
        · cases ha
      · cases ha

/-- If time does not go back and no change is unanswered, the last cycle started no earlier than the
last change that counts was handled. -/
theorem le_started_of_answered (ha : log.Ascending)
    (hu : log.unanswered path overrides start = false) {changed : Int}
    (hc : (log.accepted path overrides start).head? = some changed) :
    ∃ now, log.started.head? = some now ∧ changed ≤ now := by
  induction log with
  | nil => cases hc
  | cons e log ih =>
    unfold started
    unfold unanswered at hu
    cases hs : starting? e log with
    | some now =>
      rw [collect_of_some hs]
      refine ⟨now, rfl, ?_⟩
      -- A cycle has just started: at the latest time of all.
      unfold starting? at hs
      split at hs
      · cases hs
        have hmem : changed ∈ accepted path overrides start (.told now _ :: _) :=
          List.mem_of_mem_head? hc
        rcases List.mem_cons.mp (accepted_subset_times hmem) with rfl | hm
        · exact Int.le_refl _
        · exact (List.pairwise_cons.mp (ha.of_suffix (List.suffix_cons _ _))).1 changed hm
      · cases hs
    | none =>
      -- No change has just been handled, or it would be unanswered.
      rw [collect_of_none hs]
      rw [hs, Option.isNone_none, Bool.true_and, Bool.or_eq_false_iff] at hu
      have hn : accepting? path overrides start e log = none := by
        cases hn : accepting? path overrides start e log with
        | none => rfl
        | some now => rw [hn] at hu; exact nomatch hu.1
      unfold accepted at hc
      rw [collect_of_none hn] at hc
      exact ih (ha.of_suffix (List.suffix_cons _ _)) hu.2 hc

/-! ## Passive events -/

theorem Passive.handling? {e : Event} (h : Passive e log) : Log.handling? e log = none := by
  cases h with
  | told now text log hlog =>
    cases log with
    | nil => rfl
    | cons e before =>
      cases e with
      | received signal => exact absurd rfl (hlog signal before)
      | told | arrived | asked | loaded | happened => rfl
  | arrived | received | asked => rfl

theorem Passive.accepting? {e : Event} (h : Passive e log) :
    Log.accepting? path overrides start e log = none := by
  cases h with
  | told now text log hlog =>
    cases log with
    | nil => rfl
    | cons e before =>
      cases e with
      | received signal => exact absurd rfl (hlog signal before)
      | told | arrived | asked | loaded | happened => rfl
  | arrived | received | asked => rfl

theorem Passive.starting? {e : Event} (h : Passive e log) : Log.starting? e log = none := by
  cases h <;> rfl

theorem Passive.unanswered {e : Event} (h : Passive e log) :
    Log.unanswered path overrides start (e :: log) = log.unanswered path overrides start :=
  unanswered_of_none h.starting? h.accepting?

/-! ## Prompt cycles -/

theorem Prompt.cons (h : log.Prompt) (hn : ¬log.Awaits) (e : Event) : Prompt (e :: log) :=
  ⟨fun ha => absurd ha hn, h⟩

/-- What the surface is asked does not come between a poll and its cycle. -/
theorem Prompt.happened (h : log.Prompt) (hn : ¬log.Awaits) (new : Past) :
    Prompt (new.map .happened ++ log) ∧ ¬Awaits (new.map .happened ++ log) := by
  induction new with
  | nil => exact ⟨h, hn⟩
  | cons x new ih => exact ⟨ih.1.cons ih.2 _, id⟩

theorem Rests.not_awaits_told (h : log.Rests) (now : Int) (text : Option String) :
    ¬Awaits (.told now text :: log) := by
  cases h <;> exact id

theorem mem_times_of_saving? {now : Int} (h : log.saving? = some now) : now ∈ log.times := by
  unfold saving? at h
  split at h
  · cases h
    exact List.mem_cons_self
  · cases h

/-! ## What the surface is asked -/

/-- What a log says without regard to the surface, it says behind what the surface is asked. -/
theorem view_happened {β : Type} (view : Log → β)
    (hv : ∀ x log, ¬x.IsHost → view (.happened x :: log) = view log) {new : Past}
    (hnew : ∀ x ∈ new, ¬x.IsHost) (log : Log) : view (new.map .happened ++ log) = view log := by
  induction new with
  | nil => rfl
  | cons x new ih =>
    exact (hv x _ (hnew x List.mem_cons_self)).trans
      (ih fun y hy => hnew y (List.mem_cons_of_mem _ hy))

theorem starting?_of_not_isHost {x : Happening} (hx : ¬x.IsHost) :
    Log.starting? (.happened x) log = none := by
  cases x with
  | created | displayed | released => rfl
  | opened | edited | notified | configured | read => exact absurd trivial hx

end

end Log

end LivePreview.Watch
