import LivePreview.Proofs.Guard.Registry
import LivePreview.Proofs.Preview.Alike
import LivePreview.Proofs.Preview.UpToDate
import LivePreview.Proofs.Rendering

/-!
# Sessions in one process

The sessions of a process share one registry of guards, which is asked for guards elsewhere too.

1. `InForce` says that the settings a session was given last are in force in all its parts, and that
   each cycle has rendered under the guard that it had at the time. Every step keeps it
   (`InForce.moves`), the closing of the session included. The guard has the milliseconds of the
   settings; an engine that reads no more of it renders as under exactly their budget
   (`Past.rendered_eq_bySettings`).
2. An action that `Requests` makes of the registry only what requests for guards make of it. So do
   the steps of sessions, and they leave a session with guards of the registry (`Held.take`).
3. A process keeps both, whatever is done in it (`Process.Kept.run`). As the registry keeps the
   budget that it was first asked for, a session need not have exactly that of its settings
   (`first_budget_stays`); it has if nobody asks for a fraction of a millisecond.
-/

namespace LivePreview.Preview

open Console (Journal)
open Files (Tree)
open Guard (Guards LoopGuard Registry)

/-! ## Settings in force -/

theorem Scheduler.notify_debounce (s : Scheduler) (change : Change) (now : Int) :
    (s.notify change now).2.debounce = s.debounce := by
  unfold Scheduler.notify
  split
  · rfl
  · exact s.trigger_debounce now

theorem Scheduler.notify_saveOnly (s : Scheduler) (change : Change) (now : Int) :
    (s.notify change now).2.saveOnly = s.saveOnly := by
  unfold Scheduler.notify
  split
  · rfl
  · exact s.trigger_saveOnly now

/-- The settings that a session was given last are in force in all its parts, and cycles have
rendered under the guards that were in force. -/
structure InForce (engine : Engine) (s : Session) (past : Past) : Prop where
  settings : s.settings = past.settings
  guard : s.guard = past.guard
  /-- The guard has the milliseconds of the settings, and had them in every cycle. -/
  guarded : past.Guarded
  debounce : s.scheduler.debounce = s.settings.debounce
  saveOnly : s.scheduler.saveOnly = s.settings.saveOnly
  cycles : s.cycles = past.cycles.length
  /-- What the surface was offered is what cycles have read, each text rendered under the guard that
  the record tells of. -/
  offered : past.offered = past.rendered engine

section

variable {engine : Engine} {s s' : Session} {past past' : Past}

theorem InForce.opened (engine : Engine) {settings : Settings} {guard : LoopGuard}
    (hg : guard.milliseconds = settings.loopGuard) (text : Option String) :
    InForce engine (Session.opened settings guard) [.opened settings guard text] :=
  ⟨rfl, rfl, ⟨hg, trivial⟩, rfl, rfl, rfl, rfl⟩

theorem InForce.milliseconds_guard (h : InForce engine s past) :
    s.guard.milliseconds = s.settings.loopGuard := by
  rw [h.guard, h.settings]
  exact h.guarded.guard

/-- A cycle renders under the guard in force. -/
theorem InForce.behind {outcome : Outcome} {slot : Slot} (h : InForce engine s past)
    (hc : Cycles engine s past outcome slot past') :
    InForce engine (s.behind outcome slot) past' := by
  have hsettings : past'.settings = past.settings :=
    hc.view_eq Past.settings (fun _ _ => rfl) (fun _ _ _ => rfl) (fun _ _ _ => rfl) fun _ => rfl
  have hguard : past'.guard = past.guard :=
    hc.view_eq Past.guard (fun _ _ => rfl) (fun _ _ _ => rfl) (fun _ _ _ => rfl) fun _ => rfl
  have hguarded : past'.Guarded = past.Guarded :=
    hc.view_eq Past.Guarded (fun _ _ => rfl) (fun _ _ _ => rfl) (fun _ _ _ => rfl) fun _ => rfl
  refine ⟨h.settings.trans hsettings.symm, h.guard.trans hguard.symm, ?_, h.debounce, h.saveOnly,
    ?_, hc.offered_eq h.guard h.offered⟩
  · rw [hguarded]
    exact h.guarded
  · rw [hc.cycles_eq]
    exact congrArg (· + 1) h.cycles

/-- Every step keeps the settings in force. -/
theorem InForce.moves {step : Step} (h : InForce engine s past)
    (hm : Moves engine s past step s' past') : InForce engine s' past' := by
  cases hm with
  | edited text =>
    exact ⟨h.settings, h.guard, h.guarded, h.debounce, h.saveOnly, h.cycles, h.offered⟩
  | notified change now =>
    exact ⟨h.settings, h.guard, h.guarded,
      (s.scheduler.notify_debounce change now).trans h.debounce,
      (s.scheduler.notify_saveOnly change now).trans h.saveOnly, h.cycles, h.offered⟩
  | configured settings guard hg =>
    exact ⟨rfl, rfl, ⟨hg, h.guarded⟩, rfl, rfl, h.cycles, h.offered⟩
  | waited now hn => exact h
  | polled now deadline outcome slot past' hs hd hc => exact h.behind hc
  | activated now outcome slot past' hs hc => exact h.behind hc
  | ignored now hs =>
    exact ⟨h.settings, h.guard, h.guarded, (s.scheduler.scheduleNow_debounce now).trans h.debounce,
      (s.scheduler.scheduleNow_saveOnly now).trans h.saveOnly, h.cycles, h.offered⟩
  | closed =>
    -- what is taken back is neither offered nor read, and sets nothing
    have hview : ∀ {β : Type} (view : Past → β),
        (∀ artifact past, view (.released artifact :: past) = view past) →
          view (s.slot.emptying ++ past) = view past :=
      fun view hr => view_emptying view hr s.slot past
    have hcycles : Past.cycles (s.slot.emptying ++ past) = past.cycles := hview _ fun _ _ => rfl
    have hguarded : Past.Guarded (s.slot.emptying ++ past) = past.Guarded := hview _ fun _ _ => rfl
    refine ⟨h.settings.trans (hview Past.settings fun _ _ => rfl).symm,
      h.guard.trans (hview Past.guard fun _ _ => rfl).symm, ?_, h.debounce, h.saveOnly, ?_, ?_⟩
    · rw [hguarded]
      exact h.guarded
    · rw [hcycles]
      exact h.cycles
    · rw [hview Past.offered fun _ _ => rfl, Past.rendered, hcycles]
      exact h.offered

/-- Only settings change a session's guard. -/
theorem Moves.guard_eq {step : Step} (hm : Moves engine s past step s' past')
    (hs : ∀ settings, step ≠ .configure settings) : s'.guard = s.guard := by
  cases hm with
  | configured settings => exact absurd rfl (hs settings)
  | edited | notified | waited | polled | activated | ignored | closed => rfl

/-- A step runs no cycle, or one by the guard in force. -/
theorem Moves.cycles_guard {step : Step} (hm : Moves engine s past step s' past') :
    ∀ cycle ∈ past'.cycles, cycle ∈ past.cycles ∨ cycle.guard = past.guard := by
  have hcycle : ∀ {outcome : Outcome} {slot : Slot}, Cycles engine s past outcome slot past' →
      ∀ cycle ∈ past'.cycles, cycle ∈ past.cycles ∨ cycle.guard = past.guard := by
    intro outcome slot hc cycle hmem
    rw [hc.cycles_eq] at hmem
    rcases List.mem_cons.mp hmem with rfl | hmem
    · exact .inr rfl
    · exact .inl hmem
  cases hm with
  | edited | notified | configured | waited | ignored => exact fun _ hmem => .inl hmem
  | polled now deadline outcome slot past' hs hd hc => exact hcycle hc
  | activated now outcome slot past' hs hc => exact hcycle hc
  | closed =>
    rw [view_emptying Past.cycles fun _ _ => rfl]
    exact fun _ hmem => .inl hmem

/-- New settings are put in force, and an armed timer keeps its deadline. -/
theorem Moves.configure_phase {settings : Settings}
    (hm : Moves engine s past (.configure settings) s' past') :
    s'.settings = settings ∧ s'.scheduler.phase = s.scheduler.phase ∧
      past' = .configured settings s'.guard :: past := by
  cases hm
  exact ⟨rfl, rfl, rfl⟩

end

/-! ## Budgets -/

/-- What the texts read by cycles render to under exactly the budgets of the settings in force. -/
def Past.bySettings (engine : Engine) (past : Past) : List String :=
  past.cycles.filterMap fun cycle =>
    cycle.text.map fun text => (pageOf engine ⟨cycle.settings.budget⟩ text).page

/-- An engine that reads no fraction of a millisecond renders under the budgets of the settings. -/
theorem Past.rendered_eq_bySettings {engine : Engine} (he : engine.ReadsMilliseconds) {past : Past}
    (h : past.Guarded) : past.rendered engine = past.bySettings engine := by
  refine List.filterMap_congr fun cycle hc => ?_
  have hms : cycle.guard.milliseconds = LoopGuard.milliseconds ⟨cycle.settings.budget⟩ :=
    (h.cycles cycle hc).trans cycle.settings.milliseconds_budget.symm
  unfold pageOf
  simp only [render_congr he hms]

/-- A guard of the milliseconds of settings has exactly their budget if it has no fraction. -/
theorem budget_eq_iff {guard : LoopGuard} {settings : Settings}
    (h : guard.milliseconds = settings.loopGuard) :
    guard.budget = settings.budget ↔ guard.budget.IsWhole :=
  Duration.eq_ofMilliseconds_iff h

/-! ## Requests for guards -/

variable {σ α β : Type} {Asked : Duration → Prop}

@[simp] theorem Sandbox.guard_fst (w : Sandbox) (budget : Duration) :
    (w.guard budget).1 = (w.registry.register budget).1 := rfl

@[simp] theorem Sandbox.guard_registry (w : Sandbox) (budget : Duration) :
    (w.guard budget).2.registry = (w.registry.register budget).2 := by
  unfold Sandbox.guard
  dsimp only
  split <;> rfl

/-- Of the registry, an action makes what requests for guards make of it. -/
def Requests (Asked : Duration → Prop) (act : Recorded σ α) : Prop :=
  ∀ past s (w : Sandbox), w.registry.Reaches Asked (act past s w).2.registry

namespace Requests

theorem pure (a : α) : Requests Asked (Pure.pure a : Recorded σ α) := fun _ _ _ => .refl

theorem bind {act : Recorded σ α} {next : α → Recorded σ β} (h : Requests Asked act)
    (hnext : ∀ a, Requests Asked (next a)) : Requests Asked (act >>= next) :=
  fun past s w => (h past s w).trans (hnext _ _ _ _)

theorem record (x : Happening) : Requests Asked (Preview.record x : Recorded σ Unit) :=
  fun _ _ _ => .refl

theorem say (e : Console.Entry) : Requests Asked (Journal.say e : Recorded σ Unit) :=
  fun _ _ _ => .refl

theorem guard {budget : Duration} (h : Asked budget) :
    Requests Asked (Guards.guard budget : Recorded σ LoopGuard) := by
  intro past s w
  show w.registry.Reaches Asked (w.guard budget).2.registry
  rw [Sandbox.guard_registry]
  exact Registry.Reaches.refl.register budget h

/-- To be a request, as a likeness of an action to any other. -/
def likeness (Asked : Duration → Prop) : Likeness (Recorded σ) (Recorded σ) :=
  ⟨fun act _ => Requests Asked act, pure, bind⟩

theorem hostLike (hasked : ∀ settings : Settings, Asked settings.budget) :
    HostLike (likeness (σ := σ) Asked) :=
  ⟨fun x _ => record x, say, fun settings => guard (hasked settings)⟩

end Requests

/-- A surface that may ask for guards, and does nothing else to the registry. -/
structure Surface.Requests (Asked : Duration → Prop)
    (surface : Surface (StateT σ (StateM Sandbox))) : Prop where
  create : ∀ document s (w : Sandbox),
    w.registry.Reaches Asked (surface.create document s w).2.registry
  display : ∀ artifact s (w : Sandbox),
    w.registry.Reaches Asked (surface.display artifact s w).2.registry
  release : ∀ artifact s (w : Sandbox),
    w.registry.Reaches Asked (surface.release artifact s w).2.registry

/-- On such a surface, what is done with a session makes requests only. -/
theorem Surface.Requests.stage {surface : Surface (StateT σ (StateM Sandbox))}
    (h : surface.Requests Asked) (engine : Engine) :
    (Stage.recorded engine surface).Like (Requests.likeness Asked) (.recorded engine surface) where
  engine := rfl
  surface :=
    { create := fun document _ s w => h.create document s w
      display := fun artifact _ s w => h.display artifact s w
      release := fun artifact _ s w => h.release artifact s w }
  document _ _ _ := .refl

/-- What sessions work with. Other surfaces may see the state of the surface. -/
structure Host (σ : Type) where
  engine : Engine
  surface : Surface (StateT σ (StateM Sandbox))
  requests : surface.Requests fun _ => True

namespace Host

variable (host : Host σ)

/-- Opens a session. -/
def opening (settings : Settings) (text : Option String) : Recorded σ Session :=
  Session.play host.engine host.surface settings text []

/-- A session that is opened has the settings that it is given, and the guard that is answered for
their budget. -/
theorem opening_fst (settings : Settings) (text : Option String) (state : σ) (w : Sandbox) :
    (host.opening settings text [] state w).1.1 =
      (Session.opened settings (w.registry.register settings.budget).1,
        [.opened settings (w.registry.register settings.budget).1 text]) := rfl

theorem opening_registry (settings : Settings) (text : Option String) (state : σ) (w : Sandbox) :
    (host.opening settings text [] state w).2.registry =
      (w.registry.register settings.budget).2 :=
  Sandbox.guard_registry w settings.budget

/-- A step leads to what steps can lead to. -/
theorem moves_take (s : Session) (step : Step) (past : Past) (state : σ) (w : Sandbox) :
    Moves host.engine s past step (s.take host.engine host.surface step past state w).1.1.1
      (s.take host.engine host.surface step past state w).1.1.2 :=
  Leads.of_take ⟨state, w, rfl⟩

theorem requests_take (hasked : ∀ settings : Settings, Asked settings.budget)
    (h : host.surface.Requests Asked) (s : Session) (step : Step) :
    Preview.Requests Asked (s.take host.engine host.surface step) :=
  (Requests.hostLike hasked).take (h.stage host.engine) s step

end Host

/-- A session and its cycles go by guards of a registry. -/
structure Held (r : Registry) (s : Session) (past : Past) : Prop where
  guard : s.guard ∈ r.guards
  cycles : ∀ cycle ∈ past.cycles, cycle.guard ∈ r.guards

theorem Held.grown {r r' : Registry} {s : Session} {past : Past} (h : Held r s past)
    (hr : r.Reaches Asked r') : Held r' s past :=
  ⟨hr.guards_kept.subset h.guard, fun cycle hc => hr.guards_kept.subset (h.cycles cycle hc)⟩

/-- Settings leave a session with a guard of the registry. -/
theorem mem_guards_apply {s : Session} {w : Sandbox} (hg : s.guard ∈ w.registry.guards)
    (settings : Settings) (past : Past) (state : σ) :
    ((s.apply settings : Recorded σ Session) past state w).1.1.1.guard ∈
      ((s.apply settings : Recorded σ Session) past state w).2.registry.guards := by
  unfold Session.apply
  by_cases hb : settings.budget = s.guard.budget
  · simp only [if_pos hb]
    exact hg
  · simp only [if_neg hb]
    show (w.guard settings.budget).1 ∈ (w.guard settings.budget).2.registry.guards
    rw [Sandbox.guard_fst, Sandbox.guard_registry]
    exact w.registry.mem_register settings.budget

/-- A step leaves a session and its cycles with guards of the registry. -/
theorem Held.take (host : Host σ) {s : Session} {past : Past} {w : Sandbox}
    (h : Held w.registry s past) (hguard : s.guard = past.guard) (step : Step) (state : σ) :
    Held (s.take host.engine host.surface step past state w).2.registry
      (s.take host.engine host.surface step past state w).1.1.1
      (s.take host.engine host.surface step past state w).1.1.2 := by
  have hmoves := host.moves_take s step past state w
  have hgrown := h.grown (host.requests_take (fun _ => trivial) host.requests s step past state w)
  refine ⟨?_, fun cycle hc => ?_⟩
  · by_cases hs : ∃ settings, step = .configure settings
    · obtain ⟨settings, rfl⟩ := hs
      exact mem_guards_apply h.guard settings past state
    · rw [hmoves.guard_eq fun settings he => hs ⟨settings, he⟩]
      exact hgrown.guard
  · rcases hmoves.cycles_guard cycle hc with hc | hc
    · exact hgrown.cycles cycle hc
    · rw [hc, ← hguard]
      exact hgrown.guard

/-! ## Processes -/

/-- A session with what it works with and its record. -/
structure View (σ : Type) where
  host : Host σ
  session : Session
  past : Past

/-- Sessions and what they share: the state of their surfaces, and the sandbox. -/
structure Process (σ : Type) where
  views : List (View σ)
  state : σ
  sandbox : Sandbox

/-- What is done in a process. -/
inductive Deed (σ : Type) where
  /-- A session is opened. -/
  | opened (host : Host σ) (settings : Settings) (text : Option String)
  /-- Something is done with a session, if there is one of the number. -/
  | done (number : Nat) (step : Step)
  /-- A guard is asked for elsewhere. -/
  | asked (budget : Duration)

/-- Besides the budgets of settings, a deed leads to requests only that `Asked` holds of. -/
def Deed.Asks (Asked : Duration → Prop) : Deed σ → Prop
  | .opened host _ _ => host.surface.Requests Asked
  | .done _ _ => True
  | .asked budget => Asked budget

theorem Deed.asks_anything (deed : Deed σ) : deed.Asks fun _ => True := by
  cases deed with
  | opened host settings text => exact host.requests
  | done number step => trivial
  | asked budget => trivial

namespace Process

/-- A process without sessions. Nobody has asked for a guard. -/
def start (state : σ) (tree : Tree) : Process σ := ⟨[], state, ⟨tree, [], .empty⟩⟩

def take (p : Process σ) : Deed σ → Process σ
  | .opened host settings text =>
    let r := host.opening settings text [] p.state p.sandbox
    ⟨p.views ++ [⟨host, r.1.1.1, r.1.1.2⟩], r.1.2, r.2⟩
  | .done number step =>
    match p.views[number]? with
    | none => p
    | some v =>
      let r := v.session.take v.host.engine v.host.surface step v.past p.state p.sandbox
      ⟨p.views.set number ⟨v.host, r.1.1.1, r.1.1.2⟩, r.1.2, r.2⟩
  | .asked budget => { p with sandbox := (p.sandbox.guard budget).2 }

def run (p : Process σ) (deeds : List (Deed σ)) : Process σ := deeds.foldl take p

/-- The registry of a process. -/
abbrev registry (p : Process σ) : Registry := p.sandbox.registry

theorem take_done (p : Process σ) {number : Nat} {v : View σ} (hv : p.views[number]? = some v)
    (step : Step) :
    let r := v.session.take v.host.engine v.host.surface step v.past p.state p.sandbox
    p.take (.done number step) =
      ⟨p.views.set number ⟨v.host, r.1.1.1, r.1.1.2⟩, r.1.2, r.2⟩ := by
  unfold take
  simp only [hv]

/-- Nothing is done with a session that is not there. -/
theorem take_done_none (p : Process σ) {number : Nat} (hv : p.views[number]? = none)
    (step : Step) : p.take (.done number step) = p := by
  unfold take
  simp only [hv]

/-- The surfaces of a process make requests only that `Asked` holds of. -/
def Asks (Asked : Duration → Prop) (p : Process σ) : Prop :=
  ∀ v ∈ p.views, v.host.surface.Requests Asked

theorem asks_anything (p : Process σ) : p.Asks fun _ => True := fun v _ => v.host.requests

section

variable {p : Process σ} {deed : Deed σ} {deeds : List (Deed σ)}

theorem Asks.take (h : p.Asks Asked) (hd : deed.Asks Asked) : (p.take deed).Asks Asked := by
  cases deed with
  | opened host settings text =>
    intro v hv
    rcases List.mem_append.mp hv with hmem | hnew
    · exact h v hmem
    · obtain rfl := List.mem_singleton.mp hnew
      exact hd
  | done number step =>
    cases hv : p.views[number]? with
    | none =>
      rw [p.take_done_none hv]
      exact h
    | some v =>
      rw [p.take_done hv]
      intro v' hv'
      rcases List.mem_or_eq_of_mem_set hv' with hmem | rfl
      · exact h v' hmem
      · exact h v (List.mem_of_getElem? hv)
  | asked budget => exact h

variable (hasked : ∀ settings : Settings, Asked settings.budget)

include hasked

theorem Asks.reaches_take (h : p.Asks Asked) (hd : deed.Asks Asked) :
    p.registry.Reaches Asked (p.take deed).registry := by
  cases deed with
  | opened host settings text =>
    show p.registry.Reaches Asked (host.opening settings text [] p.state p.sandbox).2.registry
    rw [host.opening_registry]
    exact Registry.Reaches.refl.register settings.budget (hasked settings)
  | done number step =>
    cases hv : p.views[number]? with
    | none =>
      rw [p.take_done_none hv]
      exact .refl
    | some v =>
      rw [p.take_done hv]
      exact v.host.requests_take hasked (h v (List.mem_of_getElem? hv)) v.session step v.past
        p.state p.sandbox
  | asked budget =>
    show p.registry.Reaches Asked (p.sandbox.guard budget).2.registry
    rw [Sandbox.guard_registry]
    exact Registry.Reaches.refl.register budget hd

/-- Whatever is done in a process, requests make one registry of another. -/
theorem Asks.reaches_run (h : p.Asks Asked) (hd : ∀ deed ∈ deeds, deed.Asks Asked) :
    p.registry.Reaches Asked (p.run deeds).registry := by
  induction deeds generalizing p with
  | nil => exact .refl
  | cons deed deeds ih =>
    have hdeed := hd deed List.mem_cons_self
    exact (h.reaches_take hasked hdeed).trans
      (ih (h.take hdeed) fun next hnext => hd next (List.mem_cons_of_mem _ hnext))

end

theorem reaches_take (p : Process σ) (deed : Deed σ) :
    p.registry.Reaches (fun _ => True) (p.take deed).registry :=
  p.asks_anything.reaches_take (fun _ => trivial) deed.asks_anything

theorem reaches_run (p : Process σ) (deeds : List (Deed σ)) :
    p.registry.Reaches (fun _ => True) (p.run deeds).registry :=
  p.asks_anything.reaches_run (fun _ => trivial) fun deed _ => deed.asks_anything

/-- In every session of a process the settings are in force, under guards of the registry. -/
def Kept (p : Process σ) : Prop :=
  ∀ v ∈ p.views, InForce v.host.engine v.session v.past ∧ Held p.registry v.session v.past

namespace Kept

variable {p : Process σ}

/-- What is kept is kept when the registry has grown, and of other sessions if they come with it. -/
theorem grown (h : p.Kept) {views : List (View σ)} {state : σ} {w : Sandbox}
    (hr : p.registry.Reaches Asked w.registry)
    (hviews : ∀ v ∈ views, v ∈ p.views ∨
      (InForce v.host.engine v.session v.past ∧ Held w.registry v.session v.past)) :
    Kept ⟨views, state, w⟩ := by
  intro v hv
  rcases hviews v hv with hmem | hnew
  · exact ⟨(h v hmem).1, (h v hmem).2.grown hr⟩
  · exact hnew

/-- A session that is opened has a guard of the registry. -/
theorem opened (h : p.Kept) (host : Host σ) (settings : Settings) (text : Option String) :
    (p.take (.opened host settings text)).Kept := by
  refine h.grown (p.reaches_take (.opened host settings text)) fun v hv => ?_
  rcases List.mem_append.mp hv with hmem | hnew
  · exact .inl hmem
  · obtain rfl := List.mem_singleton.mp hnew
    have hms := (p.registry.register_fst_milliseconds settings.budget).trans
      settings.milliseconds_budget
    rw [host.opening_fst, host.opening_registry]
    exact .inr ⟨.opened host.engine hms text, p.registry.mem_register settings.budget, nofun⟩

/-- Whatever is done, it is kept. -/
theorem take (h : p.Kept) (deed : Deed σ) : (p.take deed).Kept := by
  cases deed with
  | opened host settings text => exact h.opened host settings text
  | done number step =>
    cases hv : p.views[number]? with
    | none =>
      rw [p.take_done_none hv]
      exact h
    | some v =>
      obtain ⟨hforce, hheld⟩ := h v (List.mem_of_getElem? hv)
      have hr := p.reaches_take (.done number step)
      rw [p.take_done hv] at hr ⊢
      refine h.grown hr fun v' hv' => ?_
      rcases List.mem_or_eq_of_mem_set hv' with hmem | rfl
      · exact .inl hmem
      · exact .inr ⟨hforce.moves (v.host.moves_take v.session step v.past p.state p.sandbox),
          hheld.take v.host hforce.guard step p.state⟩
  | asked budget => exact h.grown (p.reaches_take (.asked budget)) fun v hv => .inl hv

theorem run (h : p.Kept) (deeds : List (Deed σ)) : (p.run deeds).Kept := by
  induction deeds generalizing p with
  | nil => exact h
  | cons deed deeds ih => exact ih (h.take deed)

end Kept

/-- New settings go to the session that is given them. An armed timer keeps its deadline. -/
theorem take_configure (p : Process σ) {number : Nat} {v : View σ}
    (hv : p.views[number]? = some v) (settings : Settings) :
    ∃ s, (p.take (.done number (.configure settings))).views =
        p.views.set number ⟨v.host, s, .configured settings s.guard :: v.past⟩ ∧
      s.settings = settings ∧ s.scheduler.phase = v.session.scheduler.phase := by
  rw [p.take_done hv]
  obtain ⟨hs, hphase, hp⟩ := (v.host.moves_take v.session (.configure settings) v.past p.state
    p.sandbox).configure_phase
  rw [hp]
  exact ⟨_, rfl, hs, hphase⟩

end Process

/-- **Settings are in force.** Whatever is done in a process:

1. In each session the settings that it was given last are in force: the timer has their debounce
   and their policy, and the guard, which the registry answers for their budget, has their
   milliseconds. What the surface was offered is what cycles read, each text rendered under the
   guard that was in force; if the engine reads no fraction of a millisecond, that comes to
   rendering under exactly the budgets of the settings.
2. Settings that a session is given leave the timer as it is, and the other sessions.
3. No two guards have the same milliseconds, and the guards there are stay as they are whatever is
   done next.
4. Who asks for a guard gets one of the milliseconds asked for. It has exactly the budget asked for
   unless another budget of these milliseconds was asked for first.
5. Hence where nobody asks for a fraction of a millisecond, each session and each of its cycles has
   a guard of exactly the budget of the settings, and whole milliseconds are answered exactly. -/
theorem settings_in_force (state : σ) (tree : Tree) (deeds : List (Deed σ)) :
    let p := (Process.start state tree).run deeds
    (∀ v ∈ p.views, InForce v.host.engine v.session v.past ∧
      p.registry.register v.session.settings.budget = (v.session.guard, p.registry) ∧
      (v.host.engine.ReadsMilliseconds → v.past.offered = v.past.bySettings v.host.engine)) ∧
    (∀ number v settings, p.views[number]? = some v →
      ∃ s, (p.take (.done number (.configure settings))).views =
          p.views.set number ⟨v.host, s, .configured settings s.guard :: v.past⟩ ∧
        s.settings = settings ∧ s.scheduler.phase = v.session.scheduler.phase) ∧
    (p.registry.Distinct ∧ ∀ more, p.registry.guards <+: (p.run more).registry.guards) ∧
    (∀ budget, (p.registry.register budget).1.milliseconds = budget.milliseconds ∧
      ((p.registry.register budget).1.budget = budget ↔
        ∀ g ∈ p.registry.guards, g.milliseconds = budget.milliseconds → g.budget = budget)) ∧
    ((∀ deed ∈ deeds, deed.Asks Duration.IsWhole) →
      (∀ v ∈ p.views, v.session.guard.budget = v.session.settings.budget ∧
        ∀ cycle ∈ v.past.cycles, cycle.guard.budget = cycle.settings.budget) ∧
      ∀ n, (p.registry.register (.ofMilliseconds n)).1.budget = .ofMilliseconds n) := by
  intro p
  have hstart : (Process.start state tree).Kept := List.forall_mem_nil _
  have hkept : p.Kept := hstart.run deeds
  have hdistinct : p.registry.Distinct :=
    ((Process.start state tree).reaches_run deeds).distinct List.nodup_nil
  refine ⟨fun v hv => ?_, fun number v settings hv => p.take_configure hv settings,
    ⟨hdistinct, fun more => (p.reaches_run more).guards_kept⟩, fun budget =>
      ⟨p.registry.register_fst_milliseconds budget, Registry.register_fst_iff hdistinct budget⟩,
    fun hwhole => ?_⟩
  · obtain ⟨hforce, hheld⟩ := hkept v hv
    have hms : v.session.guard.milliseconds = v.session.settings.budget.milliseconds :=
      hforce.milliseconds_guard.trans v.session.settings.milliseconds_budget.symm
    refine ⟨hforce, Registry.register_of_mem hdistinct hheld.guard hms, fun he => ?_⟩
    rw [hforce.offered, Past.rendered_eq_bySettings he hforce.guarded]
  · have hregistry : p.registry.Whole :=
      (Process.Asks.reaches_run (p := Process.start state tree)
        (fun settings => Duration.isWhole_ofMilliseconds settings.loopGuard)
        (List.forall_mem_nil _) hwhole).whole (List.forall_mem_nil _)
    refine ⟨fun v hv => ?_, fun n => hregistry.register_fst n⟩
    obtain ⟨hforce, hheld⟩ := hkept v hv
    exact ⟨(budget_eq_iff hforce.milliseconds_guard).mpr (hregistry _ hheld.guard),
      fun cycle hc => (budget_eq_iff (hforce.guarded.cycles cycle hc)).mpr
        (hregistry _ (hheld.cycles cycle hc))⟩

/-- Artifacts in memory have nothing to do with guards. -/
theorem requests_memory : Surface.Requests Asked
    (LivePreview.Surface.Memory.surface :
      Surface (StateT LivePreview.Surface.Memory (StateM Sandbox))) where
  create _ _ _ := .refl
  display _ _ _ := .refl
  release _ _ _ := .refl

/-- Sessions with artifacts in memory and an engine without an answer. -/
def memoryHost : Host LivePreview.Surface.Memory :=
  ⟨fun _ _ => .ok none, LivePreview.Surface.Memory.surface, requests_memory⟩

/-- Two sessions on one surface. While its timer is set, the first is given the budget of the second
and then its own again, and no guard is made for that. -/
theorem settings_in_force_shared :
    let deeds : List (Deed LivePreview.Surface.Memory) :=
      [.opened memoryHost ⟨500, 100, false⟩ (some "a"), .opened memoryHost ⟨300, 200, true⟩ none,
        .done 0 (.activate 0), .done 0 (.notify .edit 10), .done 0 (.configure ⟨300, 200, true⟩),
        .asked (.ofMilliseconds 700), .done 0 (.configure ⟨500, 100, false⟩)]
    let p := (Process.start .empty .empty).run deeds
    p.registry.guards = [.ofMilliseconds 100, .ofMilliseconds 200, .ofMilliseconds 700] ∧
      p.views.map (·.session.scheduler.deadline?) = [some 510, none] ∧
      (∀ deed ∈ deeds, deed.Asks Duration.IsWhole) ∧
      (∀ v ∈ p.views, InForce v.host.engine v.session v.past ∧
        v.session.guard.budget = v.session.settings.budget) ∧
      ∃ v s, p.views[0]? = some v ∧ s.scheduler.phase = v.session.scheduler.phase ∧
        (p.take (.done 0 (.configure ⟨0, 700, true⟩))).views =
          p.views.set 0 ⟨v.host, s, .configured ⟨0, 700, true⟩ s.guard :: v.past⟩ := by
  intro deeds p
  have h := settings_in_force (σ := LivePreview.Surface.Memory) .empty .empty deeds
  have hguards : p.registry.guards =
      [.ofMilliseconds 100, .ofMilliseconds 200, .ofMilliseconds 700] := by
    decide +kernel
  have htimers : p.views.map (·.session.scheduler.deadline?) = [some 510, none] := by
    decide +kernel
  have hwhole : ∀ deed ∈ deeds, deed.Asks Duration.IsWhole := by
    simp only [deeds, List.forall_mem_cons]
    exact ⟨requests_memory, requests_memory, trivial, trivial, trivial,
      Duration.isWhole_ofMilliseconds 700, trivial, nofun⟩
  have hlength : p.views.length = 2 := by decide +kernel
  have hlt : 0 < p.views.length := by omega
  obtain ⟨v, hview⟩ : ∃ v, p.views[0]? = some v := ⟨_, List.getElem?_eq_getElem hlt⟩
  obtain ⟨s, hviews, -, hphase⟩ := h.2.1 0 v ⟨0, 700, true⟩ hview
  exact ⟨hguards, htimers, hwhole,
    fun v hv => ⟨(h.1 v hv).1, ((h.2.2.2.2 hwhole).1 v hv).1⟩, v, s, hview, hphase, hviews⟩

/-- Where half a millisecond more was asked for first, whole milliseconds are not answered exactly,
and a session that is opened under them, and its cycle, go by the budget asked for first. -/
theorem first_budget_stays :
    let p := (Process.start .empty .empty).run [.asked ⟨100, 500000⟩,
      .opened memoryHost ⟨500, 100, false⟩ (some "a"), .done 0 (.activate 0)]
    p.registry.guards = [⟨⟨100, 500000⟩⟩] ∧
      (p.registry.register (.ofMilliseconds 100)).1.budget ≠ .ofMilliseconds 100 ∧
      (∃ v ∈ p.views, v.session.guard.budget ≠ v.session.settings.budget) ∧
      p.views.map (fun v => v.past.cycles.map fun cycle => cycle.guard.budget) =
        [[⟨100, 500000⟩]] := by
  decide +kernel

end LivePreview.Preview
