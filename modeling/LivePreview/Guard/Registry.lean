import LivePreview.Guard.Plan

/-!
# The registry of loop guards

Guards are kept under the whole milliseconds of their budgets. Who asks for a budget gets the guard
that is kept under its milliseconds, which has the budget that it was first asked for.
-/

namespace LivePreview.Guard

/-- The guards made so far, one for a number of milliseconds. -/
structure Registry where
  guards : List LoopGuard
deriving DecidableEq, Repr

namespace Registry

/-- No guard was asked for yet. -/
def empty : Registry := ⟨[]⟩

/-- The guard under the milliseconds of a budget, if one was asked for before. -/
def find? (r : Registry) (budget : Duration) : Option LoopGuard :=
  r.guards.find? fun g => g.milliseconds == budget.milliseconds

/-- The guard under the milliseconds of a budget. If there is none it is made, of this budget. -/
def register (r : Registry) (budget : Duration) : LoopGuard × Registry :=
  match r.find? budget with
  | some g => (g, r)
  | none => (⟨budget⟩, ⟨r.guards ++ [⟨budget⟩]⟩)

/-- A registry answers with a guard of the milliseconds that it is asked for. -/
theorem register_fst_milliseconds (r : Registry) (budget : Duration) :
    (r.register budget).1.milliseconds = budget.milliseconds := by
  unfold register
  cases hf : r.find? budget with
  | none => rfl
  | some g =>
    exact eq_of_beq (List.find?_some
      (p := fun g : LoopGuard => g.milliseconds == budget.milliseconds) hf)

end Registry

/-- A monad that keeps a registry of guards. -/
class Guards (m : Type → Type) where
  /-- The guard under the milliseconds of a budget, made if need be. -/
  guard : Duration → m LoopGuard

instance {σ : Type} {m : Type → Type} [Monad m] [Guards m] : Guards (StateT σ m) where
  guard budget := StateT.lift (Guards.guard budget)

/-- The topic of notes on guards. -/
def topic : String := "transform"

/-- The note on a guard that was made. -/
def LoopGuard.madeText (g : LoopGuard) : String :=
  "registered loop guard (" ++ String.ofList (Text.decimal g.milliseconds) ++ "ms)"

end LivePreview.Guard
