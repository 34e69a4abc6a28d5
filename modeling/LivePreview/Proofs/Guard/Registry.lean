import LivePreview.Guard.Registry
import Mathlib.Data.List.Nodup

/-!
# Registries grow

1. Who asks for a guard gets one of the milliseconds asked for, and from then on it is in the
   registry. It has exactly the budget asked for if no other budget of these milliseconds was asked
   for before (`register_fst_iff`).
2. `Reaches` says what requests make of a registry. Its guards stay where they are and as they are
   (`Reaches.guards_kept`), no number of milliseconds gets a second one (`Reaches.distinct`), and
   there is a fraction of a millisecond in a guard only if one was in a request
   (`Reaches.whole`).
-/

namespace LivePreview.Guard.Registry

/-- No two guards have the same milliseconds. -/
def Distinct (r : Registry) : Prop := (r.guards.map LoopGuard.milliseconds).Nodup

/-- No guard has a fraction of a millisecond. -/
def Whole (r : Registry) : Prop := ∀ g ∈ r.guards, g.budget.IsWhole

/-- Requests for guards, of budgets that `Asked` holds of, make one registry of another. -/
inductive Reaches (Asked : Duration → Prop) (r : Registry) : Registry → Prop where
  | refl : Reaches Asked r r
  | register {r' : Registry} (budget : Duration) (hb : Asked budget) (h : Reaches Asked r r') :
      Reaches Asked r (r'.register budget).2

variable {Asked : Duration → Prop} {r r' r'' : Registry}

/-- The guard that is there is answered; where none is, one of the budget is made and put behind
the others. -/
theorem register_cases (r : Registry) (budget : Duration) :
    (∃ g ∈ r.guards, g.milliseconds = budget.milliseconds ∧ r.register budget = (g, r)) ∨
      (budget.milliseconds ∉ r.guards.map LoopGuard.milliseconds ∧
        r.register budget = (⟨budget⟩, ⟨r.guards ++ [⟨budget⟩]⟩)) := by
  unfold register find?
  cases hf : r.guards.find? fun g => g.milliseconds == budget.milliseconds with
  | some g =>
    have hms := List.find?_some (p := fun g : LoopGuard => g.milliseconds == budget.milliseconds) hf
    exact .inl ⟨g, List.mem_of_find?_eq_some hf, eq_of_beq hms, rfl⟩
  | none =>
    refine .inr ⟨fun hmem => ?_, rfl⟩
    obtain ⟨g, hg, hbudget⟩ := List.mem_map.mp hmem
    have hne := List.find?_eq_none.mp hf g hg
    simp [hbudget] at hne

/-- A guard is in the registry from the first request for it on. -/
theorem mem_register (r : Registry) (budget : Duration) :
    (r.register budget).1 ∈ (r.register budget).2.guards := by
  rcases r.register_cases budget with ⟨g, hg, -, he⟩ | ⟨-, he⟩ <;> rw [he]
  · exact hg
  · exact List.mem_append_right _ (List.mem_singleton_self _)

/-- In a registry without a second guard of the same milliseconds, a guard is told by them. -/
theorem Distinct.eq_of_milliseconds (h : r.Distinct) {g g' : LoopGuard} (hg : g ∈ r.guards)
    (hg' : g' ∈ r.guards) (he : g.milliseconds = g'.milliseconds) : g = g' :=
  List.inj_on_of_nodup_map h hg hg' he

/-- A guard that is there is answered for every budget of its milliseconds. -/
theorem register_of_mem (h : r.Distinct) {g : LoopGuard} (hg : g ∈ r.guards) {budget : Duration}
    (hms : g.milliseconds = budget.milliseconds) : r.register budget = (g, r) := by
  rcases r.register_cases budget with ⟨g', hg', hms', he⟩ | ⟨hnew, -⟩
  · rw [he, h.eq_of_milliseconds hg' hg (hms'.trans hms.symm)]
  · exact absurd (hms ▸ List.mem_map_of_mem hg) hnew

/-- The guard that is answered has the budget asked for, unless one of the same milliseconds and
another budget is there. -/
theorem register_fst_iff (h : r.Distinct) (budget : Duration) :
    (r.register budget).1.budget = budget ↔
      ∀ g ∈ r.guards, g.milliseconds = budget.milliseconds → g.budget = budget := by
  rcases r.register_cases budget with ⟨g, hg, hms, he⟩ | ⟨hnew, he⟩ <;> rw [he]
  · refine ⟨fun hb g' hg' hms' => ?_, fun hall => hall g hg hms⟩
    rw [h.eq_of_milliseconds hg' hg (hms'.trans hms.symm)]
    exact hb
  · exact iff_of_true rfl fun g hg hms => absurd (hms ▸ List.mem_map_of_mem hg) hnew

namespace Reaches

theorem trans (h : Reaches Asked r r') (h' : Reaches Asked r' r'') : Reaches Asked r r'' := by
  induction h' with
  | refl => exact h
  | register budget hb _ ih => exact ih.register budget hb

/-- The guards of a registry stay where they are, and as they are. -/
theorem guards_kept (h : Reaches Asked r r') : r.guards <+: r'.guards := by
  induction h with
  | refl => exact List.prefix_rfl
  | @register r' budget _ _ ih =>
    refine ih.trans ?_
    rcases r'.register_cases budget with ⟨_, -, -, he⟩ | ⟨-, he⟩ <;> simp [he]

/-- Requests make no second guard of the same milliseconds. -/
theorem distinct (h : Reaches Asked r r') (hr : r.Distinct) : r'.Distinct := by
  induction h with
  | refl => exact hr
  | @register r' budget _ _ ih =>
    rcases r'.register_cases budget with ⟨_, -, -, he⟩ | ⟨hnew, he⟩ <;> rw [he]
    · exact ih
    · rw [Distinct, List.map_append]
      refine List.nodup_append.mpr ⟨ih, by simp, fun b hb c hc hbc => hnew ?_⟩
      have hc : c = budget.milliseconds := by simpa [LoopGuard.milliseconds] using hc
      rwa [← hc, ← hbc]

/-- Where all requests are of whole milliseconds, so are the guards. -/
theorem whole (h : Reaches Duration.IsWhole r r') (hr : r.Whole) : r'.Whole := by
  induction h with
  | refl => exact hr
  | @register r' budget hb _ ih =>
    rcases r'.register_cases budget with ⟨_, -, -, he⟩ | ⟨-, he⟩ <;> rw [he]
    · exact ih
    · intro g hg
      rcases List.mem_append.mp hg with hg | hg
      · exact ih g hg
      · rw [List.mem_singleton.mp hg]
        exact hb

end Reaches

/-- Where no guard has a fraction of a millisecond, whole milliseconds are answered exactly. -/
theorem Whole.register_fst (h : r.Whole) (n : Nat) :
    (r.register (.ofMilliseconds n)).1.budget = .ofMilliseconds n := by
  have hms := r.register_fst_milliseconds (.ofMilliseconds n)
  rw [Duration.milliseconds_ofMilliseconds] at hms
  rcases r.register_cases (.ofMilliseconds n) with ⟨g, hg, -, he⟩ | ⟨-, he⟩
  · rw [he] at hms ⊢
    exact (Duration.eq_ofMilliseconds_iff hms).mpr (h g hg)
  · rw [he]

end LivePreview.Guard.Registry
