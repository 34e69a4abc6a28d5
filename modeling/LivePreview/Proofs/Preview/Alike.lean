import LivePreview.Proofs.Preview.Likeness
import LivePreview.Proofs.Preview.Recorded

/-!
# Surfaces that do alike

Two surfaces whose states are related, and stay so whatever they are asked, while they answer the
same: sessions on them cannot be told apart, and leave related states (`Surface.Alike.play`).

The relation may look at the record. If it holds of the record and one state alone, this says that
the state follows the record.
-/

namespace LivePreview.Preview

open Console (Journal)
open Guard (Guards)

variable {σ τ α β : Type} {R : Past → σ → τ → Prop}

/-- From related states two actions have one answer and one record, do the same to the sandbox, and
leave related states. -/
def Alike (R : Past → σ → τ → Prop) (act : Recorded σ α) (act' : Recorded τ α) : Prop :=
  ∀ past s t w, R past s t →
    (act' past t w).1.1 = (act past s w).1.1 ∧ (act' past t w).2 = (act past s w).2 ∧
      R (act past s w).1.1.2 (act past s w).1.2 (act' past t w).1.2

namespace Alike

theorem pure (a : α) : Alike R (Pure.pure a) (Pure.pure a) := fun _ _ _ _ h => ⟨rfl, rfl, h⟩

theorem bind {act : Recorded σ α} {act' : Recorded τ α} {next : α → Recorded σ β}
    {next' : α → Recorded τ β} (h : Alike R act act') (hnext : ∀ a, Alike R (next a) (next' a)) :
    Alike R (act >>= next) (act' >>= next') := by
  intro past s t w hr
  obtain ⟨hanswer, hsandbox, hstate⟩ := h past s t w hr
  have hrest := hnext (act past s w).1.1.1 _ _ _ (act past s w).2 hstate
  show (next' (act' past t w).1.1.1 (act' past t w).1.1.2 _ (act' past t w).2).1.1 = _ ∧
    (next' (act' past t w).1.1.1 (act' past t w).1.1.2 _ (act' past t w).2).2 = _ ∧
    R _ _ (next' (act' past t w).1.1.1 (act' past t w).1.1.2 _ (act' past t w).2).1.2
  rw [hanswer, hsandbox]
  exact hrest

theorem record {x : Happening} (hx : ∀ past s t, R past s t → R (x :: past) s t) :
    Alike R (Preview.record x) (Preview.record x) := fun past s t _ h => ⟨rfl, rfl, hx past s t h⟩

/-- What sees neither the record nor the surface does the same on both. -/
theorem say (e : Console.Entry) :
    Alike R (Journal.say e : Recorded σ Unit) (Journal.say e : Recorded τ Unit) :=
  fun _ _ _ _ h => ⟨rfl, rfl, h⟩

theorem guard (budget : Duration) :
    Alike R (Guards.guard budget : Recorded σ _) (Guards.guard budget : Recorded τ _) :=
  fun _ _ _ _ h => ⟨rfl, rfl, h⟩

/-- Doing alike is a likeness. -/
def likeness (R : Past → σ → τ → Prop) : Likeness (Recorded σ) (Recorded τ) := ⟨Alike R, pure, bind⟩

end Alike

/-- What the surface is not asked. -/
def Happening.IsHost : Happening → Prop
  | .opened _ _ _ | .edited _ | .notified _ | .configured _ _ | .read _ => True
  | .created _ _ | .displayed _ _ | .released _ => False

/-- What a session does without its stage is done alike. -/
structure HostLike (L : Likeness (Recorded σ) (Recorded τ)) : Prop where
  record : ∀ x : Happening, x.IsHost → L.Like (Preview.record x) (Preview.record x)
  say : ∀ e, L.Like (Journal.say e) (Journal.say e)
  guard : ∀ settings : Settings, L.Like (Guards.guard settings.budget)
    (Guards.guard settings.budget)

section

variable {surface : Surface (StateT σ (StateM Sandbox))}
  {surface' : Surface (StateT τ (StateM Sandbox))}

namespace HostLike

variable {L : Likeness (Recorded σ) (Recorded τ)} {engine : Engine} (h : HostLike L)
  (hstage : (Stage.recorded engine surface).Like L (.recorded engine surface'))

include h hstage

/-- On stages that do alike a step is done alike. -/
theorem take (s : Session) (step : Step) :
    L.Like (s.take engine surface step) (s.take engine surface' step) := by
  cases step with
  | edit text => exact L.bind (h.record (.edited text) trivial) fun _ => L.pure _
  | notify change now =>
    exact L.bind (h.record (.notified change) trivial) fun _ =>
      Session.change_like h.say s change now
  | activate now => exact hstage.activate h.say now s
  | poll now => exact L.bind (hstage.poll h.say now s) fun _ => L.pure _
  | configure settings =>
    exact L.bind (Session.apply_like h.guard settings s) fun s =>
      L.bind (h.record (.configured settings s.guard) trivial) fun _ => L.pure _
  | close => exact hstage.close s

theorem takeAll (s : Session) (steps : List Step) :
    L.Like (s.takeAll engine surface steps) (s.takeAll engine surface' steps) := by
  induction steps generalizing s with
  | nil => exact L.pure s
  | cons step steps ih => exact L.bind (h.take hstage s step) ih

/-- On stages that do alike sessions do alike. -/
theorem play (settings : Settings) (text : Option String) (steps : List Step) :
    L.Like (Session.play engine surface settings text steps)
      (Session.play engine surface' settings text steps) :=
  L.bind (Session.start_like h.guard settings) fun s =>
    L.bind (h.record (.opened settings s.guard text) trivial) fun _ => h.takeAll hstage s steps

end HostLike

/-- Two surfaces do alike, in states that are related whatever the host does. -/
structure Surface.Alike (R : Past → σ → τ → Prop) (surface : Surface (StateT σ (StateM Sandbox)))
    (surface' : Surface (StateT τ (StateM Sandbox))) : Prop where
  host : ∀ x : Happening, x.IsHost → ∀ past s t, R past s t → R (x :: past) s t
  create : ∀ document, Preview.Alike R (surface.recorded.create document)
    (surface'.recorded.create document)
  display : ∀ artifact, Preview.Alike R (surface.recorded.display artifact)
    (surface'.recorded.display artifact)
  release : ∀ artifact, Preview.Alike R (surface.recorded.release artifact)
    (surface'.recorded.release artifact)

namespace Surface.Alike

/-- Stages on the surfaces do alike. -/
theorem stage (h : surface.Alike R surface') (engine : Engine) :
    (Stage.recorded engine surface).Like (Alike.likeness R) (.recorded engine surface') where
  engine := rfl
  surface := ⟨h.create, h.display, h.release⟩
  document past s t _ hr := ⟨rfl, rfl, h.host (.read past.text) trivial past s t hr⟩

theorem hostLike (h : surface.Alike R surface') : HostLike (Alike.likeness R) :=
  ⟨fun x hx => Alike.record (h.host x hx), Alike.say, fun settings => Alike.guard settings.budget⟩

/-- Sessions on surfaces that do alike do alike. -/
theorem play (h : surface.Alike R surface') (engine : Engine) (settings : Settings)
    (text : Option String) (steps : List Step) :
    Preview.Alike R (Session.play engine surface settings text steps)
      (Session.play engine surface' settings text steps) :=
  h.hostLike.play (h.stage engine) settings text steps

end Surface.Alike

end

end LivePreview.Preview
