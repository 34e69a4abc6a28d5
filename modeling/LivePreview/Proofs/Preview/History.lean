import LivePreview.Preview.Scheduler

/-!
# The timer as a function of the past

What was asked of a scheduler decides when renders begin (`timer_follows_history`).

1. A history lists what was asked, latest first, with the answers of polls. `due` reads off it
   whether a poll begins a render, without looking at the scheduler.
2. `Agrees` says what each phase means in terms of the history. Every request keeps it
   (`Agrees.ask`), so it holds behind every run (`agrees_run`).
3. A poll that begins uses up the triggers before it. `renders_le` counts: without another trigger,
   at most one render is to come.
4. In a burst each change finds the timer armed by the one before, so that only the last deadline
   is ever reached (`begun_burst`).
-/

namespace LivePreview.Preview.Scheduler

/-! ## Requests and histories -/

/-- When changes count, and how long they wait. -/
structure Policy where
  debounce : Nat
  saveOnly : Bool
deriving DecidableEq, Repr

/-- A change that counts. -/
def Policy.accepts (q : Policy) (change : Change) : Bool := !q.saveOnly || change == .save

/-- How long a change waits. -/
def Policy.delay (q : Policy) : Nat := if q.saveOnly then 0 else q.debounce

/-- What a scheduler is asked. -/
inductive Request where
  | notify (change : Change) (now : Int)
  | scheduleNow (now : Int)
  | poll (now : Int)
  | finish (now : Int)
  | reconfigure (policy : Policy)
deriving DecidableEq, Repr

/-- What was asked; of a poll also whether a render began. -/
inductive Event where
  | changed (change : Change) (now : Int)
  | wanted (now : Int)
  | polled (now : Int) (began : Bool)
  | finished (now : Int)
  | configured (policy : Policy)
deriving DecidableEq, Repr

/-- What was asked so far, latest first. -/
abbrev History := List Event

/-- The scheduler behind a request, and the event that the request was. -/
def ask (s : Scheduler) : Request → Scheduler × Event
  | .notify change now => ((s.notify change now).2, .changed change now)
  | .scheduleNow now => (s.scheduleNow now, .wanted now)
  | .poll now => ((s.beginIfDue now).2, .polled now (s.beginIfDue now).1)
  | .finish now => (s.finish now, .finished now)
  | .reconfigure q => (s.reconfigure q.debounce q.saveOnly, .configured q)

/-- The scheduler and its history behind requests. -/
def askAll : Scheduler × History → List Request → Scheduler × History
  | sh, [] => sh
  | (s, h), r :: rs => askAll ((s.ask r).1, (s.ask r).2 :: h) rs

/-- A run from the start under a policy. -/
def run (p : Policy) (requests : List Request) : Scheduler × History :=
  askAll (start p.debounce p.saveOnly, []) requests

/-! ## What a history says

`p` is the policy at the start. -/

section

variable (p : Policy)

/-- The policy in force. -/
def policy : History → Policy
  | [] => p
  | .configured q :: _ => q
  | _ :: h => policy h

/-- A render has begun and not ended. -/
def inProgress : History → Bool
  | [] => false
  | .polled _ true :: _ => true
  | .finished _ :: _ => false
  | _ :: h => inProgress h

/-- An event behind `before` that asks for a render: a change that counts, or a wish. -/
def isTrigger (e : Event) (before : History) : Bool :=
  match e with
  | .changed change _ => (policy p before).accepts change
  | .wanted _ => true
  | _ => false

/-- There was a trigger since a render last began. -/
def triggered : History → Bool
  | [] => false
  | .polled _ true :: _ => false
  | e :: h => isTrigger p e h || triggered h

/-- An event that sets the timer: a trigger while no render is in progress, or the end of a render
during which there was one. -/
def arms (e : Event) (before : History) : Bool :=
  match e with
  | .finished _ => inProgress before && triggered p before
  | e => isTrigger p e before && !inProgress before

/-- The last event since a render last began that sets the timer, and what was before it. -/
def lastArming : History → Option (Event × History)
  | [] => none
  | .polled _ true :: _ => none
  | e :: h => if arms p e h then some (e, h) else lastArming h

/-- When an event was; a policy has no time. -/
def Event.time : Event → Int
  | changed _ now | wanted now | polled now _ | finished now => now
  | configured _ => 0

/-- How long the render waits that an event sets the timer for. -/
def waiting (e : Event) (before : History) : Nat :=
  match e with
  | .wanted _ => 0
  | _ => (policy p before).delay

/-- A poll now is to begin a render. -/
def due (h : History) (now : Int) : Bool :=
  !inProgress h && triggered p h &&
    (lastArming p h).any fun (e, before) => e.time + waiting p e before ≤ now

/-- The number of triggers. -/
def triggers : History → Nat
  | [] => 0
  | e :: h => (isTrigger p e h).toNat + triggers h

/-- When renders began, latest first. -/
def begun : History → List Int
  | [] => []
  | .polled now true :: h => now :: begun h
  | _ :: h => begun h

end

/-! ## The phase and the history -/

/-- What the phase of a scheduler says of its history. -/
def PhaseAgrees (p : Policy) (h : History) : Phase → Prop
  | .idle => inProgress h = false ∧ triggered p h = false
  | .scheduled deadline => inProgress h = false ∧ triggered p h = true ∧
      ∃ e before, lastArming p h = some (e, before) ∧ e.time + waiting p e before = deadline
  | .rendering pending => inProgress h = true ∧ triggered p h = pending
  | .closed => False

/-- A scheduler is in the state that its history calls for. -/
structure Agrees (p : Policy) (s : Scheduler) (h : History) : Prop where
  debounce : s.debounce = (policy p h).debounce
  saveOnly : s.saveOnly = (policy p h).saveOnly
  phase : PhaseAgrees p h s.phase

namespace Agrees

variable {p : Policy} {s : Scheduler} {h : History}

theorem accepts (a : Agrees p s h) (change : Change) :
    s.accepts change = (policy p h).accepts change := by
  unfold Scheduler.accepts Policy.accepts
  rw [a.saveOnly]

theorem delay (a : Agrees p s h) : s.delay = (policy p h).delay := by
  unfold Scheduler.delay Policy.delay
  rw [a.saveOnly, a.debounce]

theorem not_closed (a : Agrees p s h) : s.isClosed = false := by
  have hp := a.phase
  unfold isClosed
  cases hs : s.phase with
  | closed => rw [hs] at hp; exact hp.elim
  | idle | scheduled _ | rendering _ => rfl

/-- A change counts if the policy in force says so. -/
theorem notify_fst (a : Agrees p s h) (change : Change) (now : Int) :
    (s.notify change now).1 = (policy p h).accepts change := by
  unfold notify
  rw [a.not_closed, a.accepts, Bool.false_or]
  cases (policy p h).accepts change <;> rfl

/-- Polls are answered from the history. -/
theorem beginIfDue_fst (a : Agrees p s h) (now : Int) : (s.beginIfDue now).1 = due p h now := by
  have hp := a.phase
  unfold beginIfDue due
  cases hs : s.phase with
  | idle => rw [hs] at hp; simp [hp.2]
  | scheduled deadline =>
    rw [hs] at hp
    obtain ⟨hr, ht, e, before, hl, hd⟩ := hp
    by_cases hn : deadline ≤ now
    · simp [hr, ht, hl, hd, hn]
    · simp [hl, hd, hn]
  | rendering pending => rw [hs] at hp; simp [hp.1]
  | closed => rw [hs] at hp; exact hp.elim

end Agrees

theorem agrees_start (p : Policy) : Agrees p (start p.debounce p.saveOnly) [] :=
  ⟨rfl, rfl, rfl, rfl⟩

/-! ## What a request keeps -/

section

variable {p : Policy} {s : Scheduler} {h : History} {e : Event} {phase : Phase}

/-- Events that neither ask for a render nor begin or end one leave the phase's meaning alone. -/
theorem PhaseAgrees.skip (hp : PhaseAgrees p h phase) (hr : inProgress (e :: h) = inProgress h)
    (ht : triggered p (e :: h) = triggered p h) (hl : lastArming p (e :: h) = lastArming p h) :
    PhaseAgrees p (e :: h) phase := by
  cases phase with
  | idle => exact ⟨hr.trans hp.1, ht.trans hp.2⟩
  | scheduled deadline =>
    obtain ⟨h₁, h₂, e', before, h₃, h₄⟩ := hp
    exact ⟨hr.trans h₁, ht.trans h₂, e', before, hl.trans h₃, h₄⟩
  | rendering pending => exact ⟨hr.trans hp.1, ht.trans hp.2⟩
  | closed => exact hp

/-- A trigger during a render is remembered. -/
theorem phaseAgrees_trigger_rendering (he : isTrigger p e h = true) (hr : inProgress h = true) :
    PhaseAgrees p (e :: h) (.rendering true) := by
  cases e with
  | changed change now => exact ⟨hr, by simp only [triggered, he, Bool.true_or]⟩
  | wanted now => exact ⟨hr, rfl⟩
  | polled | finished | configured => cases he

/-- A trigger while no render is in progress sets the timer. -/
theorem phaseAgrees_trigger_scheduled (he : isTrigger p e h = true) (hr : inProgress h = false) :
    PhaseAgrees p (e :: h) (.scheduled (e.time + waiting p e h)) := by
  cases e with
  | changed change now =>
    refine ⟨hr, by simp only [triggered, he, Bool.true_or], _, _, ?_, rfl⟩
    simp [lastArming, arms, he, hr]
  | wanted now =>
    refine ⟨hr, rfl, _, _, ?_, rfl⟩
    simp [lastArming, arms, isTrigger, hr]
  | polled | finished | configured => cases he

/-- A trigger, unless the scheduler is closed, leaves a render to come. -/
theorem Agrees.phase_trigger (a : Agrees p s h) (he : isTrigger p e h = true) :
    PhaseAgrees p (e :: h) (match s.phase with
      | .closed => s.phase
      | .rendering _ => .rendering true
      | _ => .scheduled (e.time + waiting p e h)) := by
  have hp := a.phase
  cases hs : s.phase with
  | idle => rw [hs] at hp; exact phaseAgrees_trigger_scheduled he hp.1
  | scheduled deadline => rw [hs] at hp; exact phaseAgrees_trigger_scheduled he hp.1
  | rendering pending => rw [hs] at hp; exact phaseAgrees_trigger_rendering he hp.1
  | closed => rw [hs] at hp; exact hp.elim

theorem trigger_phase (s : Scheduler) (now : Int) : (s.trigger now).phase = match s.phase with
    | .closed => s.phase
    | .rendering _ => .rendering true
    | _ => .scheduled (now + s.delay) := by
  unfold trigger arm
  cases hs : s.phase <;> simp only [hs]

theorem scheduleNow_phase (s : Scheduler) (now : Int) :
    (s.scheduleNow now).phase = match s.phase with
    | .closed => s.phase
    | .rendering _ => .rendering true
    | _ => .scheduled now := by
  unfold scheduleNow
  cases hs : s.phase <;> simp only [hs]

/-- A timer that a wish leaves set goes off at once. -/
theorem scheduleNow_deadline {now deadline : Int}
    (hs : (s.scheduleNow now).phase = .scheduled deadline) : deadline = now := by
  unfold scheduleNow at hs
  cases hp : s.phase with
  | closed => rw [hp] at hs; simp only [hp, reduceCtorEq] at hs
  | rendering pending => rw [hp] at hs; cases hs
  | idle | scheduled _ => rw [hp] at hs; cases hs; rfl

theorem finish_phase (s : Scheduler) (now : Int) : (s.finish now).phase = match s.phase with
    | .rendering true => .scheduled (now + s.delay)
    | .rendering false => .idle
    | phase => phase := by
  unfold finish arm
  split <;> simp_all

/-- A poll begins a render at a deadline that has come, and changes nothing otherwise. -/
theorem beginIfDue_cases (s : Scheduler) (now : Int) :
    (s.beginIfDue now = (true, { s with phase := .rendering false }) ∧
      ∃ deadline, s.phase = .scheduled deadline ∧ deadline ≤ now) ∨
    (s.beginIfDue now = (false, s) ∧
      ∀ deadline, s.phase = .scheduled deadline → now < deadline) := by
  unfold beginIfDue
  cases hs : s.phase with
  | scheduled deadline =>
    by_cases hd : deadline ≤ now
    · exact .inl ⟨if_pos hd, deadline, rfl, hd⟩
    · refine .inr ⟨if_neg hd, fun d hd' => ?_⟩
      cases hd'
      exact Int.not_le.mp hd
  | idle | rendering _ | closed => exact .inr ⟨rfl, fun d hd => nomatch hd⟩

/-- A change that counts sets the timer of a scheduler that rests or has set it already; another
changes nothing. -/
theorem notify_waiting (hp : s.phase = .idle ∨ ∃ deadline, s.phase = .scheduled deadline)
    (change : Change) (now : Int) :
    s.notify change now = if s.accepts change then (true, s.arm now) else (false, s) := by
  have hopen : s.isClosed = false := by
    rcases hp with hp | ⟨deadline, hp⟩ <;> exact congrArg (· == .closed) hp
  have harm : s.trigger now = s.arm now := by
    unfold trigger
    rcases hp with hp | ⟨deadline, hp⟩ <;> rw [hp]
  unfold notify
  rw [hopen, harm]
  cases s.accepts change <;> rfl

theorem ask_poll_of_due {now deadline : Int} (hs : s.phase = .scheduled deadline)
    (hd : deadline ≤ now) :
    s.ask (.poll now) = ({ s with phase := .rendering false }, .polled now true) := by
  show ((s.beginIfDue now).2, Event.polled now (s.beginIfDue now).1) = _
  rcases beginIfDue_cases s now with ⟨hb, -⟩ | ⟨-, hn⟩
  · rw [hb]
  · exact absurd (hn deadline hs) (Int.not_lt.mpr hd)

theorem ask_poll_of_not_due {now : Int}
    (hn : ∀ deadline, s.phase = .scheduled deadline → now < deadline) :
    s.ask (.poll now) = (s, .polled now false) := by
  show ((s.beginIfDue now).2, Event.polled now (s.beginIfDue now).1) = _
  rcases beginIfDue_cases s now with ⟨-, deadline, hs, hd⟩ | ⟨hb, -⟩
  · exact absurd (hn deadline hs) (Int.not_lt.mpr hd)
  · rw [hb]

@[simp] theorem trigger_debounce (s : Scheduler) (now : Int) :
    (s.trigger now).debounce = s.debounce := by
  unfold trigger arm; cases s.phase <;> rfl

@[simp] theorem trigger_saveOnly (s : Scheduler) (now : Int) :
    (s.trigger now).saveOnly = s.saveOnly := by
  unfold trigger arm; cases s.phase <;> rfl

@[simp] theorem scheduleNow_debounce (s : Scheduler) (now : Int) :
    (s.scheduleNow now).debounce = s.debounce := by
  unfold scheduleNow; cases s.phase <;> rfl

@[simp] theorem scheduleNow_saveOnly (s : Scheduler) (now : Int) :
    (s.scheduleNow now).saveOnly = s.saveOnly := by
  unfold scheduleNow; cases s.phase <;> rfl

@[simp] theorem finish_debounce (s : Scheduler) (now : Int) :
    (s.finish now).debounce = s.debounce := by
  unfold finish arm; split <;> rfl

@[simp] theorem finish_saveOnly (s : Scheduler) (now : Int) :
    (s.finish now).saveOnly = s.saveOnly := by
  unfold finish arm; split <;> rfl

namespace Agrees

/-- What a change does. -/
theorem notify (a : Agrees p s h) (change : Change) (now : Int) :
    Agrees p (s.notify change now).2 (.changed change now :: h) := by
  have he : isTrigger p (.changed change now) h = s.accepts change := (a.accepts change).symm
  unfold Scheduler.notify
  rw [a.not_closed, Bool.false_or]
  cases hc : s.accepts change with
  | false =>
    rw [hc] at he
    refine ⟨a.debounce, a.saveOnly, a.phase.skip rfl ?_ ?_⟩
    · simp only [triggered, he, Bool.false_or]
    · simp only [lastArming, arms, he, Bool.false_and, Bool.false_eq_true, if_false]
  | true =>
    rw [hc] at he
    refine ⟨?_, ?_, ?_⟩
    · exact (trigger_debounce s now).trans a.debounce
    · exact (trigger_saveOnly s now).trans a.saveOnly
    · have hp := a.phase_trigger he
      show PhaseAgrees p _ (s.trigger now).phase
      rw [trigger_phase, a.delay]
      exact hp

/-- What a wish does. -/
theorem scheduleNow (a : Agrees p s h) (now : Int) :
    Agrees p (s.scheduleNow now) (.wanted now :: h) := by
  refine ⟨(scheduleNow_debounce s now).trans a.debounce,
    (scheduleNow_saveOnly s now).trans a.saveOnly, ?_⟩
  have hp := a.phase_trigger (e := .wanted now) rfl
  rw [show (Event.wanted now).time + waiting p (.wanted now) h = now from Int.add_zero now] at hp
  rw [scheduleNow_phase]
  exact hp

/-- What a poll does. -/
theorem poll (a : Agrees p s h) (now : Int) :
    Agrees p (s.beginIfDue now).2 (.polled now (s.beginIfDue now).1 :: h) := by
  rcases beginIfDue_cases s now with ⟨hb, -⟩ | ⟨hb, -⟩
  · rw [hb]
    exact ⟨a.debounce, a.saveOnly, rfl, rfl⟩
  · rw [hb]
    exact ⟨a.debounce, a.saveOnly, a.phase.skip rfl (Bool.false_or _) rfl⟩

/-- What the end of a render does. -/
theorem finish (a : Agrees p s h) (now : Int) :
    Agrees p (s.finish now) (.finished now :: h) := by
  refine ⟨(finish_debounce s now).trans a.debounce, (finish_saveOnly s now).trans a.saveOnly, ?_⟩
  have hp := a.phase
  rw [finish_phase]
  cases hs : s.phase with
  | idle =>
    rw [hs] at hp
    exact ⟨rfl, hp.2⟩
  | scheduled deadline =>
    rw [hs] at hp
    obtain ⟨hr, ht, e, before, hl, hd⟩ := hp
    refine ⟨rfl, ht, e, before, ?_, hd⟩
    simp only [lastArming, arms, hr, Bool.false_and, Bool.false_eq_true, if_false]
    exact hl
  | rendering pending =>
    rw [hs] at hp
    cases pending with
    | false => exact ⟨rfl, hp.2⟩
    | true =>
      refine ⟨rfl, hp.2, .finished now, h, ?_, ?_⟩
      · simp only [lastArming, arms, hp.1, hp.2, Bool.and_self, if_true]
      · show now + ((policy p h).delay : Int) = now + (s.delay : Int)
        rw [a.delay]
  | closed => rw [hs] at hp; exact hp.elim

/-- What another policy does. -/
theorem reconfigure (a : Agrees p s h) (q : Policy) :
    Agrees p (s.reconfigure q.debounce q.saveOnly) (.configured q :: h) :=
  ⟨rfl, rfl, a.phase.skip rfl (Bool.false_or _) rfl⟩

/-- Every request keeps a scheduler in the state that its history calls for. -/
theorem ask (a : Agrees p s h) (r : Request) : Agrees p (s.ask r).1 ((s.ask r).2 :: h) := by
  cases r with
  | notify change now => exact a.notify change now
  | scheduleNow now => exact a.scheduleNow now
  | poll now => exact a.poll now
  | finish now => exact a.finish now
  | reconfigure q => exact a.reconfigure q

theorem askAll (a : Agrees p s h) (rs : List Request) :
    Agrees p (askAll (s, h) rs).1 (askAll (s, h) rs).2 := by
  induction rs generalizing s h with
  | nil => exact a
  | cons r rs ih => exact ih (a.ask r)

end Agrees

/-- Behind every run the scheduler is in the state that its history calls for. -/
theorem agrees_run (p : Policy) (rs : List Request) : Agrees p (run p rs).1 (run p rs).2 :=
  (agrees_start p).askAll rs

/-! ## Triggers and renders -/

/-- The state behind a trigger that no render has answered: once the render that may be in progress
has ended, the timer is set. -/
theorem Agrees.finish_scheduled (a : Agrees p s h) (ht : triggered p h = true) (now : Int) :
    ∃ deadline, (s.finish now).phase = .scheduled deadline := by
  have hp := a.phase
  rw [finish_phase]
  cases hs : s.phase with
  | idle => rw [hs] at hp; rw [hp.2] at ht; cases ht
  | scheduled deadline => exact ⟨deadline, rfl⟩
  | rendering pending =>
    rw [hs] at hp
    rw [show pending = true from hp.2.symm.trans ht]
    exact ⟨_, rfl⟩
  | closed => rw [hs] at hp; exact hp.elim

/-- No trigger is lost. -/
theorem Agrees.begins (a : Agrees p s h) (ht : triggered p h = true) (now : Int) :
    ∃ deadline, ∀ t, deadline ≤ t → ((s.finish now).beginIfDue t).1 = true := by
  obtain ⟨deadline, hd⟩ := a.finish_scheduled ht now
  refine ⟨deadline, fun t hle => ?_⟩
  rcases beginIfDue_cases (s.finish now) t with ⟨hb, -⟩ | ⟨hb, hlt⟩
  · rw [hb]
  · exact absurd (hlt deadline hd) (Int.not_lt.mpr hle)

theorem triggered_of_due {now : Int} (hd : due p h now = true) : triggered p h = true := by
  unfold due at hd
  simp only [Bool.and_eq_true] at hd
  exact hd.1.2

theorem toNat_or_le (a b : Bool) : (a || b).toNat ≤ b.toNat + a.toNat := by
  cases a <;> cases b <;> decide

/-- An event makes no more renders possible than it is triggers, if renders begin only when there
was a trigger. -/
theorem begun_cons_le (he : ∀ now, e = .polled now true → triggered p h = true) :
    (begun (e :: h)).length + (triggered p (e :: h)).toNat ≤
      (begun h).length + (triggered p h).toNat + (isTrigger p e h).toNat := by
  have hor := toNat_or_le (isTrigger p e h) (triggered p h)
  cases e with
  | polled now began =>
    cases began with
    | true =>
      rw [he now rfl]
      exact Nat.le_refl _
    | false => exact Nat.add_assoc _ _ _ ▸ Nat.add_le_add_left hor _
  | changed | wanted | finished | configured =>
    exact Nat.add_assoc _ _ _ ▸ Nat.add_le_add_left hor _

/-- **Triggers pay for renders.** Whatever is asked, there are no more renders than there were
triggers, one that was there before included. -/
theorem Agrees.renders_le (a : Agrees p s h) (rs : List Request) :
    (begun (Scheduler.askAll (s, h) rs).2).length + triggers p h ≤
      (begun h).length + (triggered p h).toNat + triggers p (Scheduler.askAll (s, h) rs).2 := by
  induction rs generalizing s h with
  | nil => exact Nat.add_le_add_right (Nat.le_add_right _ _) _
  | cons r rs ih =>
    have hr := ih (a.ask r)
    have hc : (begun ((s.ask r).2 :: h)).length + (triggered p ((s.ask r).2 :: h)).toNat ≤
        (begun h).length + (triggered p h).toNat + (isTrigger p (s.ask r).2 h).toNat := by
      refine begun_cons_le fun now he => ?_
      cases r with
      | poll t =>
        obtain ⟨rfl, hb⟩ := Event.polled.inj he
        rw [a.beginIfDue_fst] at hb
        exact triggered_of_due hb
      | notify | scheduleNow | finish | reconfigure => cases he
    have ht : triggers p ((s.ask r).2 :: h) =
      (isTrigger p (s.ask r).2 h).toNat + triggers p h := rfl
    show (begun (Scheduler.askAll ((s.ask r).1, (s.ask r).2 :: h) rs).2).length + _ ≤
      _ + triggers p (Scheduler.askAll ((s.ask r).1, (s.ask r).2 :: h) rs).2
    omega

/-! ## Bursts -/

/-- What follows a change at time `last` up to the end of a burst: time does not go back, and each
change comes before the deadline of the one before. Polls and ends of renders may come any time. -/
def Burst (debounce : Nat) : (last clock : Int) → List Request → Prop
  | _, _, [] => True
  | last, clock, .notify _ now :: rs =>
    clock ≤ now ∧ now < last + debounce ∧ Burst debounce now now rs
  | last, clock, .poll now :: rs | last, clock, .finish now :: rs =>
    clock ≤ now ∧ Burst debounce last now rs
  | _, _, .scheduleNow _ :: _ | _, _, .reconfigure _ :: _ => False

/-- When the last change came, the one before these requests being at `last`. -/
def lastChange : Int → List Request → Int
  | last, [] => last
  | _, .notify _ now :: rs => lastChange now rs
  | last, _ :: rs => lastChange last rs

/-- When polls came. -/
def polls : List Request → List Int
  | [] => []
  | .poll now :: rs => now :: polls rs
  | _ :: rs => polls rs

theorem Burst.le_lastChange {d : Nat} {last clock : Int} {rs : List Request}
    (hb : Burst d last clock rs) (hc : last ≤ clock) : last ≤ lastChange last rs := by
  induction rs generalizing last clock with
  | nil => exact Int.le_refl _
  | cons r rs ih =>
    cases r with
    | notify change now =>
      exact Int.le_trans (Int.le_trans hc hb.1) (ih hb.2.2 (Int.le_refl _))
    | poll now => exact ih hb.2 (Int.le_trans hc hb.1)
    | finish now => exact ih hb.2 (Int.le_trans hc hb.1)
    | scheduleNow | reconfigure => exact hb.elim

/-- Once the deadline has passed there are no more changes. -/
theorem Burst.lastChange_eq {d : Nat} {last clock : Int} {rs : List Request}
    (hb : Burst d last clock rs) (hc : last + d ≤ clock) : lastChange last rs = last := by
  induction rs generalizing clock with
  | nil => rfl
  | cons r rs ih =>
    cases r with
    | notify change now => have := hb.1; have := hb.2.1; omega
    | poll now => exact ih hb.2 (Int.le_trans hc hb.1)
    | finish now => exact ih hb.2 (Int.le_trans hc hb.1)
    | scheduleNow | reconfigure => exact hb.elim

/-- Once the render of a burst has begun no other begins. -/
theorem Burst.begun_of_spent {d : Nat} {last clock : Int} {rs : List Request}
    (hb : Burst d last clock rs) (hc : last + d ≤ clock)
    (hs : s.phase = .idle ∨ s.phase = .rendering false) :
    begun (Scheduler.askAll (s, h) rs).2 = begun h := by
  induction rs generalizing s h clock with
  | nil => rfl
  | cons r rs ih =>
    show begun (Scheduler.askAll ((s.ask r).1, (s.ask r).2 :: h) rs).2 = begun h
    cases r with
    | notify change now => have := hb.1; have := hb.2.1; omega
    | poll now =>
      have hn : ∀ deadline, s.phase = .scheduled deadline → now < deadline := by
        intro deadline hd
        rcases hs with hs | hs <;> rw [hs] at hd <;> cases hd
      rw [ask_poll_of_not_due hn]
      exact ih hb.2 (Int.le_trans hc hb.1) hs
    | finish now =>
      have hf : (s.finish now).phase = .idle := by
        rw [finish_phase]
        rcases hs with hs | hs <;> rw [hs]
      exact ih (h := .finished now :: h) hb.2 (Int.le_trans hc hb.1) (.inl hf)
    | scheduleNow | reconfigure => exact hb.elim

/-- From a timer that the change at `last` has set, one render begins: at the first poll that finds
the deadline of the last change passed. -/
theorem Burst.begun_of_armed {d : Nat} {last clock : Int} {rs : List Request}
    (hb : Burst d last clock rs) (hc : last ≤ clock) (hd : s.debounce = d)
    (ho : s.saveOnly = false) (hs : s.phase = .scheduled (last + d)) :
    begun (Scheduler.askAll (s, h) rs).2 =
      ((polls rs).find? fun now => lastChange last rs + d ≤ now).toList ++ begun h := by
  induction rs generalizing s h last clock with
  | nil => rfl
  | cons r rs ih =>
    show begun (Scheduler.askAll ((s.ask r).1, (s.ask r).2 :: h) rs).2 = _
    cases r with
    | notify change now =>
      have hn : s.notify change now = (true, s.trigger now) := by
        unfold Scheduler.notify isClosed accepts
        rw [hs, ho]
        rfl
      have ht : (s.trigger now).phase = .scheduled (now + d) := by
        rw [trigger_phase, hs]
        unfold Scheduler.delay
        rw [ho, hd]
        rfl
      show begun (Scheduler.askAll ((s.notify change now).2, _) rs).2 = _
      rw [hn]
      exact ih (h := .changed change now :: h) hb.2.2 (Int.le_refl _)
        ((trigger_debounce s now).trans hd) ((trigger_saveOnly s now).trans ho) ht
    | poll now =>
      by_cases hp : last + d ≤ now
      · -- no change comes behind a poll that is due
        rw [ask_poll_of_due hs hp]
        have hl : lastChange last (.poll now :: rs) = last := hb.2.lastChange_eq hp
        rw [hl, polls, List.find?_cons_of_pos (by simpa using hp)]
        exact hb.2.begun_of_spent hp (.inr rfl)
      · rw [ask_poll_of_not_due fun deadline hs' => by rw [hs] at hs'; cases hs'; omega]
        have hl := hb.le_lastChange hc
        rw [polls, List.find?_cons_of_neg (by simp only [decide_eq_true_eq]; omega)]
        exact ih (h := .polled now false :: h) hb.2 (Int.le_trans hc hb.1) hd ho hs
    | finish now =>
      have hf : s.finish now = s := by
        unfold Scheduler.finish
        rw [hs]
      show begun (Scheduler.askAll (s.finish now, _) rs).2 = _
      rw [hf]
      exact ih (h := .finished now :: h) hb.2 (Int.le_trans hc hb.1) hd ho hs
    | scheduleNow | reconfigure => exact hb.elim

/-- **Bursts.** A burst that starts while no render is in progress leads to one render: at the first
poll that finds the deadline of its last change passed. -/
theorem Agrees.begun_burst (a : Agrees p s h) (hr : inProgress h = false)
    (ho : (policy p h).saveOnly = false) (change : Change) (t : Int) (rs : List Request)
    (hb : Burst (policy p h).debounce t t rs) :
    begun (Scheduler.askAll (s, h) (.notify change t :: rs)).2 =
      ((polls rs).find? fun now => lastChange t rs + (policy p h).debounce ≤ now).toList ++
        begun h := by
  have hp := a.phase
  have ho' := a.saveOnly.trans ho
  have hn : (s.notify change t).2 = s.trigger t := by
    unfold Scheduler.notify Scheduler.accepts
    rw [a.not_closed, ho']
    rfl
  have ht : (s.trigger t).phase = .scheduled (t + (policy p h).debounce) := by
    rw [trigger_phase, ← a.debounce]
    unfold Scheduler.delay
    rw [ho']
    cases hs : s.phase with
    | idle | scheduled _ => rfl
    | rendering pending => rw [hs] at hp; rw [hp.1] at hr; cases hr
    | closed => rw [hs] at hp; exact hp.elim
  show begun (Scheduler.askAll ((s.notify change t).2, .changed change t :: h) rs).2 = _
  rw [hn]
  exact hb.begun_of_armed (Int.le_refl _) ((trigger_debounce s t).trans a.debounce)
    ((trigger_saveOnly s t).trans ho') ht

end

/-! ## The main theorem -/

/-- **The timer follows the history.** Behind every run:

1. A change counts if the policy in force says so.
2. A poll begins a render exactly when none is in progress, there was a trigger since one last
   began, and the last event that set the timer is long enough ago.
3. No trigger is lost: once the render that may be in progress has ended, polls begin one from
   some time on.
4. One render is to come at most: there are no more renders than triggers, one that was there
   before included.
5. A burst leads to one render, at the first poll that finds the last deadline passed. -/
theorem timer_follows_history (p : Policy) (requests : List Request) (s : Scheduler) (h : History)
    (hrun : run p requests = (s, h)) :
    (∀ change now, (s.notify change now).1 = (policy p h).accepts change) ∧
    (∀ now, (s.beginIfDue now).1 = due p h now) ∧
    (triggered p h = true →
      ∀ now, ∃ deadline, ∀ t, deadline ≤ t → ((s.finish now).beginIfDue t).1 = true) ∧
    (∀ more, (begun (askAll (s, h) more).2).length + triggers p h ≤
      (begun h).length + (triggered p h).toNat + triggers p (askAll (s, h) more).2) ∧
    (inProgress h = false → (policy p h).saveOnly = false →
      ∀ change t more, Burst (policy p h).debounce t t more →
        begun (askAll (s, h) (.notify change t :: more)).2 =
          ((polls more).find? fun now => lastChange t more + (policy p h).debounce ≤ now).toList ++
            begun h) := by
  have a : Agrees p s h := by
    have hr := agrees_run p requests
    rw [hrun] at hr
    exact hr
  exact ⟨a.notify_fst, a.beginIfDue_fst, a.begins, a.renders_le, a.begun_burst⟩

/-- A change during a render, a new window before the render ends, and then a burst: the render of
the change is put off by the burst, which leads to the second render, at 1150. -/
theorem timer_follows_history_overlapping :
    let requests : List Request := [.notify .edit 0, .poll 500, .notify .save 510,
      .reconfigure ⟨300, false⟩, .finish 530]
    let h := (run ⟨500, false⟩ requests).2
    run ⟨500, false⟩ requests = (⟨.scheduled 830, 300, false⟩, h) ∧
      due ⟨500, false⟩ h 829 = false ∧ due ⟨500, false⟩ h 830 = true ∧
      begun (askAll (⟨.scheduled 830, 300, false⟩, h) [.notify .edit 600, .poll 830,
        .notify .edit 850, .poll 1149, .poll 1150, .finish 1151, .poll 2000]).2 = [1150, 500] := by
  intro requests h
  have hf := timer_follows_history ⟨500, false⟩ requests _ h rfl
  refine ⟨rfl, ?_, ?_, ?_⟩
  · exact (hf.2.1 829).symm.trans rfl
  · exact (hf.2.1 830).symm.trans rfl
  · refine (hf.2.2.2.2 rfl rfl .edit 600 _ ?_).trans rfl
    simp only [Burst]
    decide

end LivePreview.Preview.Scheduler
