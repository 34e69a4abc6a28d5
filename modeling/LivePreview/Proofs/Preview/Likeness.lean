import LivePreview.Preview.Session

/-!
# Sessions in different monads

A session does not see the monad that it runs in. Where two stages do alike, in any sense that is
kept by doing one thing after the other (`Likeness`), what is done with a session on the one is like
what is done with it on the other.
-/

namespace LivePreview

/-- A relation between the actions of two monads that is kept by doing one after the other. -/
structure Likeness (m n : Type → Type) [Monad m] [Monad n] where
  Like : {α : Type} → m α → n α → Prop
  pure : ∀ {α : Type} (a : α), Like (pure a) (pure a)
  bind : ∀ {α β : Type} {act : m α} {act' : n α} {next : α → m β} {next' : α → n β},
    Like act act' → (∀ a, Like (next a) (next' a)) → Like (act >>= next) (act' >>= next')

namespace Preview

open Console (Journal)
open Guard (Guards)

variable {m n : Type → Type} [Monad m] [Monad n]

/-- Two surfaces do alike. -/
structure Surface.Like (L : Likeness m n) (surface : Surface m) (surface' : Surface n) :
    Prop where
  create : ∀ document, L.Like (surface.create document) (surface'.create document)
  display : ∀ artifact, L.Like (surface.display artifact) (surface'.display artifact)
  release : ∀ artifact, L.Like (surface.release artifact) (surface'.release artifact)

/-- Two stages do alike. -/
structure Stage.Like (L : Likeness m n) (stage : Stage m) (stage' : Stage n) : Prop where
  engine : stage.engine = stage'.engine
  surface : stage.surface.Like L stage'.surface
  document : L.Like stage.document stage'.document

variable {L : Likeness m n} {surface : Surface m} {surface' : Surface n} {stage : Stage m}
  {stage' : Stage n}

namespace Surface.Like

theorem present (h : surface.Like L surface') (document : String) :
    L.Like (surface.present document) (surface'.present document) :=
  L.bind (h.create document) fun
    | .error _ => L.pure _
    | .ok artifact => L.bind (h.display artifact) fun
      | .ok () => L.pure _
      | .error _ => L.bind (h.release artifact) fun _ => L.pure _

theorem clear (h : surface.Like L surface') (slot : Slot) :
    L.Like (slot.clear surface) (slot.clear surface') := by
  unfold Slot.clear
  cases slot.live with
  | none => exact L.pure _
  | some artifact => exact L.bind (h.release artifact) fun _ => L.pure _

theorem install (h : surface.Like L surface') (slot : Slot) (document : String) :
    L.Like (slot.install surface document) (slot.install surface' document) :=
  L.bind (h.present document) fun presented => L.bind (h.clear slot) fun _ =>
    match presented with
    | .ok _ => L.pure _
    | .error _ => L.pure _

end Surface.Like

theorem Stage.Like.close (h : stage.Like L stage') (s : Session) :
    L.Like (s.close stage) (s.close stage') :=
  L.bind (h.surface.clear s.slot) fun _ => L.pure _

section

variable [Journal m] [Journal n] (hsay : ∀ e, L.Like (Journal.say e) (Journal.say e))

include hsay

namespace Stage.Like

theorem cycle (h : stage.Like L stage') (s : Session) :
    L.Like (s.cycle stage) (s.cycle stage') := by
  unfold Session.cycle
  rw [h.engine]
  exact L.bind h.document fun
    | none => L.bind (hsay _) fun _ => L.pure _
    | some _ => L.bind (h.surface.install s.slot _) fun
      | (.ok _, _) => L.pure _
      | (.error _, _) => L.pure _

theorem poll (h : stage.Like L stage') (now : Int) (s : Session) :
    L.Like (s.poll stage now) (s.poll stage' now) := by
  unfold Session.poll
  rcases s.scheduler.beginIfDue now with ⟨due, scheduler⟩
  cases due with
  | false => exact L.pure _
  | true => exact L.bind (h.cycle hsay s) fun _ => L.pure _

theorem activate (h : stage.Like L stage') (now : Int) (s : Session) :
    L.Like (s.activate stage now) (s.activate stage' now) :=
  L.bind (h.poll hsay now _) fun _ => L.pure _

end Stage.Like

theorem Session.change_like (s : Session) (change : Change) (now : Int) :
    L.Like (s.change change now : m Session) (s.change change now) := by
  unfold Session.change
  rcases s.scheduler.notify change now with ⟨counts, scheduler⟩
  cases counts with
  | false => exact L.pure _
  | true => exact L.bind (hsay _) fun _ => L.pure _

end

theorem Session.apply_like [Guards m] [Guards n]
    (hguard : ∀ settings : Settings, L.Like (Guards.guard settings.budget)
      (Guards.guard settings.budget)) (settings : Settings) (s : Session) :
    L.Like (s.apply settings : m Session) (s.apply settings) := by
  unfold Session.apply
  by_cases hb : settings.budget = s.guard.budget
  · simp only [if_pos hb]
    exact L.bind (L.pure _) fun _ => L.pure _
  · simp only [if_neg hb]
    exact L.bind (hguard settings) fun _ => L.pure _

theorem Session.start_like [Guards m] [Guards n]
    (hguard : ∀ settings : Settings, L.Like (Guards.guard settings.budget)
      (Guards.guard settings.budget)) (settings : Settings) :
    L.Like (Session.start settings : m Session) (Session.start settings) :=
  L.bind (hguard settings) fun _ => L.pure _

end Preview

end LivePreview
