import LivePreview.Proofs.Watch.Reading

/-!
# Runs of a loop

What holds of every run until the program is closing, and when it has closed.

1. `Kept` relates the state to the log: the settings in force, what is live, how many cycles have
   started, and the timer, which is set exactly if a change is unanswered. Signals are handled in
   the order they arrive, and each cycle but the first is paid for by a change that counts.
2. If only saves count and time does not go back, a turn that handles a save ends behind its cycle
   (`Saving`, `Saved`).
3. Every turn keeps both, so every run does (`run_renders_changes`).
-/

namespace LivePreview.Watch

open Console (Journal)
open Files (FileError)
open Guard (Guards LoopGuard)
open Preview (Balanced Change Happening Past Phase Scheduler Session Slot)
open Recording (Leads)
open Settings (Handle Layer)

variable {σ : Type}

/-- How the state of a loop relates to its log. -/
structure Kept (path : String) (overrides : Layer) (start : Handle) (s : State) (log : Log) :
    Prop where
  handle : s.handle = log.handle path overrides start
  saveOnly : s.session.scheduler.saveOnly = s.handle.current.saveOnly
  balanced : Balanced s.session.slot log.past
  read : s.session.cycles = log.past.cycles.length
  started : s.session.cycles = log.started.length
  /-- Signals are handled in the order they arrive. -/
  handled : log.handled ++ log.waiting = log.arrivals
  /-- The timer is set exactly if a change is unanswered. -/
  armed : (s.session.scheduler.phase = .idle ∧ log.unanswered path overrides start = false) ∨
    (∃ deadline, s.session.scheduler.phase = .scheduled deadline) ∧
      log.unanswered path overrides start = true
  /-- Changes pay for cycles, one that is unanswered for one to come. -/
  paid : s.session.cycles + (log.unanswered path overrides start).toNat ≤
    1 + (log.accepted path overrides start).length

section

variable {path : String} {overrides : Layer} {start : Handle} {p : Subject (Watched σ)}
  {s s' : State} {log log' : Log}

theorem Kept.phase (hk : Kept path overrides start s log) :
    s.session.scheduler.phase = .idle ∨
      ∃ deadline, s.session.scheduler.phase = .scheduled deadline :=
  hk.armed.imp And.left And.left

/-- The timer is set only if a change is unanswered. -/
theorem Kept.unanswered_of_scheduled (hk : Kept path overrides start s log) {deadline : Int}
    (hs : s.session.scheduler.phase = .scheduled deadline) :
    log.unanswered path overrides start = true := by
  rcases hk.armed with ⟨hp, -⟩ | ⟨-, hu⟩
  · exact nomatch hs.symm.trans hp
  · exact hu

/-- If the timer is not set no change is unanswered. -/
theorem Kept.answered (hk : Kept path overrides start s log)
    (hd : s.session.scheduler.deadline? = none) : log.unanswered path overrides start = false := by
  rcases hk.armed with ⟨-, hu⟩ | ⟨⟨deadline, hp⟩, -⟩
  · exact hu
  · unfold Scheduler.deadline? at hd
    rw [hp] at hd
    cases hd

/-- What is neither handled nor the start of a cycle keeps everything. -/
theorem Kept.pass (hk : Kept path overrides start s log) {e : Event} (he : Log.Passive e log) :
    Kept path overrides start s (e :: log) where
  handle := by cases he <;> exact hk.handle
  saveOnly := hk.saveOnly
  balanced := by cases he <;> exact hk.balanced
  read := by cases he <;> exact hk.read
  started := by
    rw [Log.started, Log.collect_of_none he.starting?]
    exact hk.started
  handled := by
    rw [Log.handled, Log.collect_of_none he.handling?]
    have h := hk.handled
    cases he with
    | arrived signals =>
      show log.handled ++ (log.waiting ++ signals) = log.arrivals ++ signals
      rw [← List.append_assoc, h]
    | told | received | asked => exact h
  armed := by
    rw [he.unanswered]
    exact hk.armed
  paid := by
    rw [he.unanswered, Log.accepted, Log.collect_of_none he.accepting?]
    exact hk.paid

/-- A turn waits. -/
theorem Kept.waited (hk : Kept path overrides start s log) (hr : log.Rests) (now : Int)
    (text : Option String) (signals : List Signal) :
    Kept path overrides start s (Watch.waited now text signals log) := by
  have hlog : ∀ signal before, log ≠ .received signal :: before := by
    cases hr <;> exact nofun
  exact (hk.pass (.told now text log hlog)).pass (.arrived signals _)

/-- A signal that has waited longest is handled. -/
theorem Kept.handled_cons (hk : Kept path overrides start s log) {signal : Signal}
    {rest : List Signal} (hw : log.waiting = signal :: rest) {e : Event}
    (he : Log.handling? e (.received (some signal) :: log) = some signal)
    (hwaiting : Log.waiting (e :: .received (some signal) :: log) = log.waiting.tail)
    (harrivals : Log.arrivals (e :: .received (some signal) :: log) = log.arrivals) :
    Log.handled (e :: .received (some signal) :: log) ++
      Log.waiting (e :: .received (some signal) :: log) =
        Log.arrivals (e :: .received (some signal) :: log) := by
  have hreceived : Log.collect Log.handling? (.received (some signal) :: log) =
      log.collect Log.handling? := rfl
  rw [hwaiting, harrivals, ← hk.handled, hw, Log.handled, Log.collect_of_some he, hreceived,
    List.reverse_cons, List.append_assoc]
  rfl

/-- A change is handled. -/
theorem Kept.changed (hk : Kept path overrides start s log) {change : Change} {rest : List Signal}
    (hw : log.waiting = .changed change :: rest) (now : Int) (text : Option String) :
    Kept path overrides start { s with session := Watch.changed change now s.session }
      (.told now text :: .received (some (.changed change)) :: log) := by
  have haccepts : s.session.scheduler.accepts change = true ↔
      (log.handle path overrides start).current.saveOnly = false ∨ change = .save := by
    unfold Scheduler.accepts
    rw [hk.saveOnly, hk.handle]
    simp
  have hhandled := hk.handled_cons (e := .told now text) hw rfl rfl rfl
  unfold Watch.changed
  rw [Scheduler.notify_waiting hk.phase]
  by_cases ha : s.session.scheduler.accepts change = true
  · have hn : Log.accepting? path overrides start (.told now text)
        (.received (some (.changed change)) :: log) = some now := if_pos (haccepts.mp ha)
    have hu : Log.unanswered path overrides start
        (.told now text :: .received (some (.changed change)) :: log) = true := by
      rw [Log.unanswered, hn]
      rfl
    rw [if_pos ha]
    refine ⟨hk.handle, hk.saveOnly, hk.balanced, hk.read, hk.started, hhandled, ?_, ?_⟩
    · exact .inr ⟨⟨_, rfl⟩, hu⟩
    · -- the cycle to come is paid for by this change
      rw [hu, Log.accepted, Log.collect_of_some hn]
      have hpaid := hk.paid
      show s.session.cycles + 1 ≤ 1 + ((log.accepted path overrides start).length + 1)
      omega
  · have hn : Log.accepting? path overrides start (.told now text)
        (.received (some (.changed change)) :: log) = none := if_neg (mt haccepts.mpr ha)
    have hu : Log.unanswered path overrides start
        (.told now text :: .received (some (.changed change)) :: log) =
          log.unanswered path overrides start := by
      rw [Log.unanswered, hn]
      rfl
    rw [if_neg ha]
    refine ⟨hk.handle, hk.saveOnly, hk.balanced, hk.read, hk.started, hhandled, ?_, ?_⟩
    · rw [hu]
      exact hk.armed
    · rw [hu, Log.accepted, Log.collect_of_none hn]
      exact hk.paid

/-- Settings are loaded again. -/
theorem Kept.reloaded (hk : Kept p.settingsPath p.overrides start s log) {rest : List Signal}
    (hw : log.waiting = .settingsChanged :: rest) {file : Except FileError ByteArray}
    (hhandle : s'.handle = (s.handle.reload p.settingsPath p.overrides file).2)
    (hs : s' = s ∨ Reconfigured s'.handle.current s.session s'.session) :
    Kept p.settingsPath p.overrides start s'
      (.loaded file :: .received (some .settingsChanged) :: log) := by
  have hhandled := hk.handled_cons (e := .loaded file) hw rfl rfl rfl
  have hlog : s'.handle = Log.handle p.settingsPath p.overrides start
      (.loaded file :: .received (some .settingsChanged) :: log) := by
    rw [Log.handle_loaded, Log.handle_received, hhandle, hk.handle]
  have hunanswered : Log.unanswered p.settingsPath p.overrides start
      (.loaded file :: .received (some .settingsChanged) :: log) =
        log.unanswered p.settingsPath p.overrides start :=
    (Log.unanswered_of_none rfl rfl).trans (Log.unanswered_of_none rfl rfl)
  have haccepted : Log.accepted p.settingsPath p.overrides start
      (.loaded file :: .received (some .settingsChanged) :: log) =
        log.accepted p.settingsPath p.overrides start :=
    (Log.collect_of_none rfl).trans (Log.collect_of_none rfl)
  -- Settings neither set the timer nor put it off.
  have hsession : s'.session.scheduler.saveOnly = s'.handle.current.saveOnly ∧
      s'.session.slot = s.session.slot ∧ s'.session.cycles = s.session.cycles ∧
      s'.session.scheduler.phase = s.session.scheduler.phase := by
    rcases hs with rfl | ⟨-, hs⟩
    · exact ⟨hk.saveOnly, rfl, rfl, rfl⟩
    · rw [hs]
      exact ⟨rfl, rfl, rfl, rfl⟩
  obtain ⟨hsaveOnly, hslot, hcycles, hphase⟩ := hsession
  refine ⟨hlog, hsaveOnly, ?_, hcycles.trans hk.read, hcycles.trans hk.started, hhandled, ?_, ?_⟩
  · rw [hslot]
    exact hk.balanced
  · rw [hphase, hunanswered]
    exact hk.armed
  · rw [hcycles, hunanswered, haccepted]
    exact hk.paid

/-- Whatever is received is handled. -/
theorem Kept.handles (hk : Kept p.settingsPath p.overrides start s log)
    (hh : Handles p s log s' log') : Kept p.settingsPath p.overrides start s' log' := by
  cases hh with
  | waited hw => exact hk.pass (.received log)
  | changed change rest hw now text => exact hk.changed hw now text
  | reloaded rest hw file s' hhandle hs => exact hk.reloaded hw hhandle hs

/-- What the surface is asked is no cycle. -/
theorem cycles_happened (x : Happening) (log : Log) (hx : ¬x.IsHost) :
    (Log.past (.happened x :: log)).cycles.length = log.past.cycles.length := by
  cases x with
  | created | displayed | released => rfl
  | opened | edited | notified | configured | read => exact absurd trivial hx

/-- The surface is asked, and the slot is changed accordingly. -/
theorem Kept.happened (hk : Kept path overrides start s log) {new : Past}
    (hnew : ∀ x ∈ new, ¬x.IsHost) {slot : Slot} (hb : Balanced slot (new ++ log.past)) :
    Kept path overrides start { s with session := { s.session with slot := slot } }
      (new.map .happened ++ log) := by
  have hview : ∀ {β : Type} (view : Log → β),
      (∀ x log, ¬x.IsHost → view (.happened x :: log) = view log) →
        view (new.map .happened ++ log) = view log :=
    fun view hv => Log.view_happened view hv hnew log
  have hunanswered := hview (Log.unanswered path overrides start) fun x log hx =>
    Log.unanswered_of_none (Log.starting?_of_not_isHost hx) rfl
  refine ⟨?_, hk.saveOnly, ?_, ?_, ?_, ?_, ?_, ?_⟩
  · rw [hview (Log.handle path overrides start) fun _ _ _ => rfl]
    exact hk.handle
  · rw [Log.past_happened]
    exact hb
  · rw [hview (fun log => log.past.cycles.length) cycles_happened]
    exact hk.read
  · rw [hview Log.started fun x log hx => Log.collect_of_none (Log.starting?_of_not_isHost hx)]
    exact hk.started
  · rw [hview Log.handled fun _ _ _ => rfl, hview Log.waiting fun _ _ _ => rfl,
      hview Log.arrivals fun _ _ _ => rfl]
    exact hk.handled
  · rw [hunanswered]
    exact hk.armed
  · rw [hunanswered, hview (Log.accepted path overrides start) fun _ _ _ => rfl]
    exact hk.paid

/-- A cycle starts, paid for by a change or the opening. -/
theorem Kept.ran {before : Log} {now : Int} {text : Option String} {session : Session}
    (hk : Kept path overrides start s (.told now text :: before))
    (hpaid : s.session.cycles ≤
      (Log.accepted path overrides start (.told now text :: before)).length)
    (hr : Ran s.session (.told now text :: before) session log') :
    Kept path overrides start { s with session := session } log' := by
  cases hr with
  | behind outcome slot text' new hnew hb =>
    have hread : Kept path overrides start
        { s with session := s.session.behind outcome s.session.slot }
        (.happened (.read text') :: .told now text :: before) := by
      refine ⟨hk.handle, hk.saveOnly, hk.balanced, congrArg (· + 1) hk.read,
        congrArg (· + 1) hk.started, hk.handled, .inl ⟨rfl, rfl⟩, ?_⟩
      show s.session.cycles + 1 + 0 ≤ _
      rw [Nat.add_zero, Nat.add_comm]
      exact Nat.add_le_add_left hpaid 1
    exact hread.happened hnew (hb hk.balanced)

/-- A turn keeps the relation of state and log. -/
theorem Kept.turns (hk : Kept p.settingsPath p.overrides start s log) (hr : log.Rests) {more : Bool}
    (ht : Turns p s log more s' log') : Kept p.settingsPath p.overrides start s' log' := by
  cases ht with
  | closing now text signals s' log' hh =>
    exact ((hk.waited hr now text signals).handles hh).pass (.asked true log')
  | rested now text signals s' log' hh now' text' hn =>
    exact (((hk.waited hr now text signals).handles hh).pass (.asked false log')).pass
      (.told now' text' _ nofun)
  | ran now text signals s' log' hh now' text' session log'' deadline hs hd hran =>
    have hpolled := (((hk.waited hr now text signals).handles hh).pass (.asked false log')).pass
      (.told now' text' _ nofun)
    refine hpolled.ran ?_ hran
    have hpaid := hpolled.paid
    rw [hpolled.unanswered_of_scheduled hs, Bool.toNat_true] at hpaid
    omega

theorem Ran.suffix {session session' : Session} (h : Ran session log session' log') :
    log <:+ log' := by
  cases h with
  | behind outcome slot text new hnew hb =>
    exact (List.suffix_cons _ _).trans (List.suffix_append _ _)

theorem Ran.rests {session session' : Session} (h : Ran session log session' log') :
    log'.Rests := by
  cases h with
  | behind outcome slot text new hnew hb => cases new <;> exact .happened _ _

theorem Ran.asked {session session' : Session} (h : Ran session log session' log') :
    log'.asked = log.asked := by
  cases h with
  | behind outcome slot text new hnew hb =>
    exact Log.view_happened Log.asked (fun _ _ _ => rfl) hnew _

/-- A turn that is followed by another ends with a look at the clock or a cycle. -/
theorem Turns.rests (ht : Turns p s log true s' log') : log'.Rests := by
  cases ht with
  | rested now text signals s' log' hh now' text' hn => exact .told _ _ _
  | ran now text signals s' log' hh now' text' session log'' deadline hs hd hran => exact hran.rests

/-! ## Saves -/

/-- Behind the handling of a signal the timer is set if the signal was a save. -/
structure Saving (s : State) (log : Log) : Prop where
  cycles : s.session.cycles = 1 + log.saved.length
  prompt : log.Prompt
  answered : ¬log.Awaits
  phase : s.session.scheduler.phase = log.saving?.elim .idle .scheduled

/-- Behind a turn that is followed by another all saves are answered. -/
structure Saved (s : State) (log : Log) : Prop where
  cycles : s.session.cycles = 1 + log.saved.length
  prompt : log.Prompt
  answered : ¬log.Awaits
  phase : s.session.scheduler.phase = .idle

/-- In a turn only a save sets the timer, and it does not wait. -/
theorem Saved.handles (h : Saved s log) (hr : log.Rests)
    (hs : s.session.scheduler.saveOnly = true) {now : Int} {text : Option String}
    {signals : List Signal} (hh : Handles p s (waited now text signals log) s' log') :
    Saving s' log' := by
  have hprompt : (waited now text signals log).Prompt :=
    (h.prompt.cons h.answered _).cons (hr.not_awaits_told now text) _
  cases hh with
  | waited hw => exact ⟨h.cycles, hprompt.cons id _, id, h.phase⟩
  | changed change rest hw now' text' =>
    have hprompt' :=
      (hprompt.cons id (.received (some (.changed change)))).cons id (.told now' text')
    unfold changed
    rw [Scheduler.notify_waiting (.inl h.phase)]
    cases change with
    | edit =>
      have ha : s.session.scheduler.accepts .edit = false := by
        unfold Scheduler.accepts
        rw [hs]
        rfl
      rw [ha]
      exact ⟨h.cycles, hprompt', id, h.phase⟩
    | save =>
      have ha : s.session.scheduler.accepts .save = true := by
        unfold Scheduler.accepts
        rw [hs]
        rfl
      have hd : s.session.scheduler.delay = 0 := if_pos hs
      rw [ha]
      refine ⟨h.cycles, hprompt', id, ?_⟩
      show Phase.scheduled (now' + s.session.scheduler.delay) = .scheduled now'
      rw [hd, Int.natCast_zero, Int.add_zero]
  | reloaded rest hw file s' hhandle hs' =>
    have hprompt' := (hprompt.cons id (.received (some .settingsChanged))).cons id (.loaded file)
    rcases hs' with rfl | ⟨-, hs'⟩
    · exact ⟨h.cycles, hprompt', id, h.phase⟩
    · refine ⟨?_, hprompt', id, ?_⟩
      · rw [hs']
        exact h.cycles
      · rw [hs']
        exact h.phase

/-- A save that was handled is polled for: the clock is read for the poll no earlier. -/
theorem Saving.rested (h : Saving s log) {now : Int} {text : Option String}
    (ha : Log.Ascending (.told now text :: .asked false :: log))
    (hn : ∀ deadline, s.session.scheduler.phase = .scheduled deadline → now < deadline) :
    Saved s (.told now text :: .asked false :: log) := by
  have hsaving : log.saving? = none := by
    cases hs : log.saving? with
    | none => rfl
    | some saved =>
      -- The timer is set to when the save was handled, and the poll comes no earlier.
      have hp := h.phase
      rw [hs] at hp
      have hmem : saved ∈ log.times := Log.mem_times_of_saving? hs
      have hle : saved ≤ now := (List.pairwise_cons.mp ha).1 saved hmem
      exact absurd hle (Int.not_le.mpr (hn saved hp))
  have hsaved : Log.saved (.told now text :: .asked false :: log) = log.saved := by
    unfold Log.saved
    rw [Log.collect_of_none rfl, Log.collect_of_none hsaving]
  have hanswered : ¬Log.Awaits (.told now text :: .asked false :: log) := by
    show ¬log.saving?.isSome = true
    rw [hsaving]
    exact Bool.false_ne_true
  refine ⟨?_, (h.prompt.cons h.answered _).cons id _, hanswered, ?_⟩
  · rw [hsaved]
    exact h.cycles
  · rw [h.phase, hsaving]
    rfl

/-- A cycle is that of a save. -/
theorem Saving.ran (h : Saving s log) {now deadline : Int} {text : Option String}
    {session : Session} (hs : s.session.scheduler.phase = .scheduled deadline)
    (hr : Ran s.session (.told now text :: .asked false :: log) session log') :
    Saved { s with session := session } log' := by
  obtain ⟨saved, hsaving⟩ : ∃ saved, log.saving? = some saved := by
    cases hn : log.saving? with
    | some saved => exact ⟨saved, rfl⟩
    | none =>
      have hp := h.phase
      rw [hn] at hp
      exact nomatch hs.symm.trans hp
  cases hr with
  | behind outcome slot text' new hnew hb =>
    have hread : Log.Prompt (.happened (.read text') :: .told now text :: .asked false :: log) :=
      ⟨fun _ => ⟨text', rfl⟩, (h.prompt.cons h.answered _).cons id _⟩
    refine ⟨?_, (hread.happened id new).1, (hread.happened id new).2, rfl⟩
    have hsaved : Log.saved
        (new.map .happened ++ .happened (.read text') :: .told now text :: .asked false :: log) =
          saved :: log.saved := by
      refine (Log.view_happened Log.saved (fun _ _ _ => rfl) hnew _).trans ?_
      unfold Log.saved
      rw [Log.collect_of_none rfl, Log.collect_of_none rfl, Log.collect_of_some hsaving]
    rw [hsaved, List.length_cons]
    exact congrArg (· + 1) h.cycles

end

/-! ## Between turns -/

/-- What holds between turns. -/
structure Between (path : String) (overrides : Layer) (start : Handle) (s : State) (log : Log) :
    Prop where
  kept : Kept path overrides start s log
  rests : log.Rests
  saved : log.SaveOnly path overrides start → log.Ascending → Saved s log

section

variable {path : String} {overrides : Layer} {start : Handle} {p : Subject (Watched σ)}
  {around : Surroundings σ} {s s' : State} {log log' : Log}

theorem Handles.suffix (h : Handles p s log s' log') : log <:+ log' := by
  cases h with
  | waited => exact List.suffix_cons _ _
  | changed | reloaded => exact (List.suffix_cons _ _).trans (List.suffix_cons _ _)

theorem Handles.asked (h : Handles p s log s' log') : log'.asked = log.asked := by
  cases h <;> rfl

/-- A signal is handled while only saves count. -/
theorem Between.saving (h : Between p.settingsPath p.overrides start s log) {now : Int}
    {text : Option String} {signals : List Signal}
    (hh : Handles p s (waited now text signals log) s' log')
    (hs : log'.SaveOnly p.settingsPath p.overrides start) (ha : log'.Ascending) :
    Saving s' log' := by
  have hsuffix : log <:+ log' :=
    ((List.suffix_cons _ _).trans (List.suffix_cons _ _)).trans hh.suffix
  have hsaveOnly : s.session.scheduler.saveOnly = true := by
    rw [h.kept.saveOnly, h.kept.handle]
    exact (hs.of_suffix hsuffix).handle_saveOnly
  exact (h.saved (hs.of_suffix hsuffix) (ha.of_suffix hsuffix)).handles h.rests hsaveOnly hh

/-- What holds between turns holds behind every turn that is followed by another. -/
theorem Between.turns (h : Between p.settingsPath p.overrides start s log)
    (ht : Turns p s log true s' log') : Between p.settingsPath p.overrides start s' log' := by
  refine ⟨h.kept.turns h.rests ht, ht.rests, fun hs ha => ?_⟩
  cases ht with
  | rested now text signals s' log' hh now' text' hn =>
    have hsuffix : log' <:+ .told now' text' :: .asked false :: log' :=
      (List.suffix_cons _ _).trans (List.suffix_cons _ _)
    exact (h.saving hh (hs.of_suffix hsuffix) (ha.of_suffix hsuffix)).rested ha hn
  | ran now text signals s' log₁ hh now' text' session log'' deadline hphase hd hran =>
    have hsuffix : log₁ <:+ log' :=
      ((List.suffix_cons _ _).trans (List.suffix_cons _ _)).trans hran.suffix
    exact (h.saving hh (hs.of_suffix hsuffix) (ha.of_suffix hsuffix)).ran hphase hran

/-- Behind the last turn cycles are still as many as the saves call for. -/
theorem Between.closing (h : Between p.settingsPath p.overrides start s log)
    (ht : Turns p s log false s' log') (hs : log'.SaveOnly p.settingsPath p.overrides start)
    (ha : log'.Ascending) :
    s'.session.cycles = 1 + log'.saved.length ∧ log'.Prompt ∧ ¬log'.Awaits := by
  cases ht with
  | closing now text signals s' log' hh =>
    have hsuffix := List.suffix_cons (Event.asked true) log'
    have hsaving := h.saving hh (hs.of_suffix hsuffix) (ha.of_suffix hsuffix)
    exact ⟨hsaving.cycles, hsaving.prompt.cons hsaving.answered _, id⟩

/-- The opening runs the first cycle. -/
theorem Between.opening {guard : LoopGuard} {now : Int} {text : Option String} {session : Session}
    (hr : Ran (Session.opened start.current guard) [.told now text] session log) :
    Between path overrides start ⟨session, start⟩ log := by
  have hkept : Kept path overrides start ⟨Session.opened start.current guard, start⟩
      [.told now text] :=
    ⟨rfl, rfl, List.Perm.refl _, rfl, rfl, rfl, .inl ⟨rfl, rfl⟩, Nat.zero_le _⟩
  refine ⟨hkept.ran (Nat.zero_le _) hr, hr.rests, fun _ _ => ?_⟩
  cases hr with
  | behind outcome slot text' new hnew hb =>
    have hread : Log.Prompt [.happened (.read text'), .told now text] :=
      ⟨nofun, nofun, trivial⟩
    refine ⟨?_, (hread.happened id new).1, (hread.happened id new).2, rfl⟩
    rw [Log.view_happened Log.saved (fun _ _ _ => rfl) hnew]
    rfl

/-- A turn finds out once whether the program is closing. -/
theorem Turns.asked {more : Bool} (h : Turns p s log more s' log') :
    log'.asked = (!more) :: log.asked := by
  cases h with
  | closing now text signals s' log' hh => exact congrArg (true :: ·) hh.asked
  | rested now text signals s' log' hh => exact congrArg (false :: ·) hh.asked
  | ran now text signals s' log' hh now' text' session log'' deadline hs hd hran =>
    exact hran.asked.trans (congrArg (false :: ·) hh.asked)

/-- Turns are taken until one finds the program closing, or there have been as many as may be. -/
theorem asked_turns (hp : p.stage = around.stage) {limit : Nat} {closing : Bool}
    (h : Leads (turns p around.outside limit s) log (closing, s') log') :
    if closing then ∃ n < limit, log'.asked = true :: List.replicate n false ++ log.asked
    else log'.asked = List.replicate limit false ++ log.asked := by
  induction limit generalizing s log with
  | zero =>
    obtain ⟨he, rfl⟩ := h.of_pure
    cases he
    rfl
  | succ limit ih =>
    obtain ⟨⟨more, between⟩, mid, h₁, h⟩ := h.of_bind
    have hasked := (leads_turn hp h₁).asked
    cases more with
    | true =>
      have hrest := ih h
      rw [hasked] at hrest
      cases closing with
      | true =>
        obtain ⟨n, hn, he⟩ := hrest
        refine ⟨n + 1, Nat.succ_lt_succ hn, ?_⟩
        rw [List.replicate_succ', ← List.cons_append, List.append_assoc]
        exact he
      | false =>
        show log'.asked = _
        rw [List.replicate_succ', List.append_assoc]
        exact hrest
    | false =>
      obtain ⟨he, rfl⟩ := h.of_pure
      cases he
      exact ⟨0, Nat.succ_pos _, hasked⟩

end

/-! ## Whole runs -/

/-- A run up to its last turn; tells whether that found the program closing. -/
def upToClosing {m : Type → Type} [Monad m] [Journal m] [Files m] [Guards m] (p : Subject m)
    (outside : Outside m) (limit : Nat) (handle : Handle) : m (Bool × State) := do
  let s ← start p outside handle
  turns p outside limit s

theorem run_eq {m : Type → Type} [Monad m] [LawfulMonad m] [Journal m] [Files m] [Guards m]
    (p : Subject m) (outside : Outside m) (limit : Nat) (handle : Handle) :
    run p outside limit handle = upToClosing p outside limit handle >>= fun (closing, s) =>
      if closing then do return some (← finish p s) else return none := by
  unfold run upToClosing
  rw [bind_assoc]

section

variable {around : Surroundings σ} {p : Subject (Watched σ)} {limit : Nat} {handle : Handle}
  {closing : Bool} {s : State} {log : Log}

/-- What holds behind the last turn. -/
theorem leads_upToClosing (hp : p.stage = around.stage)
    (h : Leads (upToClosing p around.outside limit handle) [] (closing, s) log) :
    Kept p.settingsPath p.overrides handle s log ∧
    (log.SaveOnly p.settingsPath p.overrides handle → log.Ascending →
      s.session.cycles = 1 + log.saved.length ∧ log.Prompt ∧ ¬log.Awaits) ∧
    if closing then ∃ n < limit, log.asked = true :: List.replicate n false
    else log.asked = List.replicate limit false := by
  obtain ⟨s₀, opened, h₁, h₂⟩ := h.of_bind
  obtain ⟨_, now, text, session, rfl, hran⟩ := leads_opening hp h₁
  have hasked := asked_turns hp h₂
  rw [show Log.asked opened = [] from hran.asked] at hasked
  simp only [List.append_nil] at hasked
  have hturns := leads_turns (motive := Between p.settingsPath p.overrides handle) hp
    (fun _ _ _ _ hs ht => hs.turns ht) (.opening hran) h₂
  cases closing with
  | true =>
    obtain ⟨last, before, hlast, ht⟩ := hturns
    exact ⟨hlast.kept.turns hlast.rests ht, hlast.closing ht, hasked⟩
  | false =>
    refine ⟨hturns.kept, fun hs ha => ?_, hasked⟩
    have hsaved := hturns.saved hs ha
    exact ⟨hsaved.cycles, hsaved.prompt, hsaved.answered⟩

end

/-- **Runs of the loop.** Whatever the surroundings do, if time does not go back:

1. Signals are handled in the order they arrive, those excepted that still wait.
2. Turns are taken until one finds the program closing. A run that is allowed so many answers.
3. Behind a run the session is closed, and every artifact that was made was taken back once.
4. One cycle starts at the opening, and no more than one for each change that counts.
5. If only saves count throughout, one starts for each save whose turn does not find the program
   closing, right behind it, and no other.
6. If the timer is not set when the program is found closing, every change that counts has been
   answered: the last cycle started no earlier than the last of them was handled. -/
theorem run_renders_changes (around : Surroundings σ) (name path : String) (overrides : Layer)
    (limit : Nat) (handle : Handle) (st : σ) (w : Sandbox) (result : Option State) (log : Log)
    (h : (run (around.subject name path overrides) around.outside limit handle [] st w).1.1 =
      (result, log))
    (hclock : log.Ascending) :
    log.handled ++ log.waiting = log.arrivals ∧
    (if result.isSome then ∃ n < limit, log.asked = true :: List.replicate n false
      else log.asked = List.replicate limit false) ∧
    ∀ s, result = some s →
      (s.session.isClosed = true ∧ log.past.made.Perm log.past.taken) ∧
      (s.session.cycles = log.past.cycles.length ∧ s.session.cycles = log.started.length ∧
        s.session.cycles ≤ 1 + (log.accepted path overrides handle).length) ∧
      (log.SaveOnly path overrides handle →
        s.session.cycles = 1 + log.saved.length ∧ log.Prompt) ∧
      ∃ last before,
        (upToClosing (around.subject name path overrides) around.outside limit handle [] st
          w).1.1 = ((true, last), before) ∧
        log = last.session.slot.emptying.map .happened ++ before ∧
        (last.session.scheduler.deadline? = none →
          log.unanswered path overrides handle = false ∧
          ∀ changed, (log.accepted path overrides handle).head? = some changed →
            ∃ now, log.started.head? = some now ∧ changed ≤ now) := by
  rw [run_eq] at h
  rcases h₁ : (upToClosing (around.subject name path overrides) around.outside limit handle [] st
    w).1.1 with ⟨⟨closing, last⟩, before⟩
  have h₂ := Leads.of_eq h h₁
  obtain ⟨hkept, hsaved, hasked⟩ := leads_upToClosing rfl ⟨st, w, h₁⟩
  cases closing with
  | false =>
    obtain ⟨rfl, rfl⟩ := h₂.of_pure
    refine ⟨hkept.handled, hasked, fun s hs => ?_⟩
    cases hs
  | true =>
    have h₂' : Leads (finish (around.subject name path overrides) last >>= fun s => pure (some s))
        before result log := h₂
    obtain ⟨s, closed, h₃, h₄⟩ := h₂'.of_bind
    obtain ⟨rfl, hlog⟩ := h₄.of_pure
    -- Closing only asks the surface to take back what is live.
    obtain ⟨hphase, hcycles, -, hclosed⟩ := leads_finish rfl h₃
    rw [← hlog] at hclosed
    have hreleased := not_isHost_emptying last.session.slot
    have hkept' := hkept.happened hreleased hkept.balanced.emptying
    rw [← hclosed] at hkept'
    refine ⟨hkept'.handled, ?_, fun s' hs' => ?_⟩
    · rw [hclosed, Log.view_happened Log.asked (fun _ _ _ => rfl) hreleased]
      exact hasked
    · cases hs'
      refine ⟨⟨congrArg (· == .closed) hphase, hkept'.balanced⟩,
        ⟨hcycles.trans hkept'.read, hcycles.trans hkept'.started, ?_⟩, fun hs => ?_, last, before,
        rfl, hclosed, fun hd => ?_⟩
      · rw [hcycles]
        exact Nat.le_trans (Nat.le_add_right _ _) hkept'.paid
      · have hsuffix : before <:+ log := hclosed ▸ List.suffix_append _ _
        obtain ⟨hc, hprompt, hn⟩ := hsaved (hs.of_suffix hsuffix) (hclock.of_suffix hsuffix)
        rw [hcycles, hclosed, Log.view_happened Log.saved (fun _ _ _ => rfl) hreleased]
        exact ⟨hc, (hprompt.happened hn _).1⟩
      · have hu := hkept'.answered hd
        exact ⟨hu, fun changed hc => Log.le_started_of_answered hclock hu hc⟩

/-- Where only saves count, an edit and a save lead to one cycle behind the opening; the program is
found closing in the third turn. -/
theorem run_renders_changes_saves :
    let around : Surroundings Nat := {
      engine := fun _ _ => .ok none
      surface := ⟨fun _ n => return (.ok ⟨n, "a"⟩, n), fun _ n => return (.ok (), n),
        fun _ n => return ((), n)⟩
      now := fun n => return ((n, some "a"), n + 1)
      arrivals := fun _ n => return (if n = 2 then [.changed .edit, .changed .save] else [], n)
      closing := fun n => return (decide (8 ≤ n), n) }
    let handle : Handle := ⟨⟨500, 100, true⟩, 0⟩
    let ran := run (around.subject "a" "b" .empty) around.outside 5 handle [] 0 .empty
    let log : Log := ran.1.1.2
    log.Ascending ∧ log.handled = [.changed .edit, .changed .save] ∧
      log.SaveOnly "b" .empty handle ∧ log.saved = [5] ∧
      ∃ s, ran.1.1.1 = some s ∧ s.session.cycles = 2 ∧ log.past.made.Perm log.past.taken ∧
        log.Prompt := by
  intro around handle ran log
  have hclock : log.Ascending := by decide +kernel
  have hsaveOnly : log.SaveOnly "b" .empty handle := by decide +kernel
  have hsaved : log.saved = [5] := by decide +kernel
  have hsome : ran.1.1.1.isSome = true := by decide +kernel
  obtain ⟨s, hs⟩ := Option.isSome_iff_exists.mp hsome
  have h := (run_renders_changes around "a" "b" .empty 5 handle 0 .empty ran.1.1.1 log rfl
    hclock).2.2 s hs
  have hcycles := (h.2.2.1 hsaveOnly).1
  rw [hsaved] at hcycles
  exact ⟨hclock, by decide +kernel, hsaveOnly, hsaved, s, hs, hcycles, h.1.2, (h.2.2.1 hsaveOnly).2⟩

end LivePreview.Watch
