import LivePreview.Sandbox

/-!
# Actions with a record

What a part of the program does to its surroundings is put on a record. The surroundings have a
state of any type, so that what holds of every record holds whatever they do.

`Leads act past a past'` says that an action, in some state of its surroundings and of the sandbox,
answers `a` and takes the record from `past` to `past'`.
-/

namespace LivePreview

open Console (Journal)

/-- Actions in surroundings with a state, with a record of what happens, latest first. -/
abbrev Recording (ε σ : Type) := StateT (List ε) (StateT σ (StateM Sandbox))

namespace Recording

variable {ε σ α β : Type}

/-- Puts something on the record. -/
def note (x : ε) : Recording ε σ Unit := modify (x :: ·)

/-- An action, in some state of its surroundings, has an answer and a record. -/
def Leads (act : Recording ε σ α) (past : List ε) (a : α) (past' : List ε) : Prop :=
  ∃ s w, (act past s w).1.1 = (a, past')

namespace Leads

variable {past past' : List ε} {a : α} {b : β}

theorem of_pure {a' : α} (h : Leads (pure a : Recording ε σ α) past a' past') :
    a' = a ∧ past' = past := by
  obtain ⟨s, w, h⟩ := h
  obtain ⟨h₁, h₂⟩ := Prod.mk.inj h
  exact ⟨h₁.symm, h₂.symm⟩

theorem of_bind {act : Recording ε σ α} {next : α → Recording ε σ β}
    (h : Leads (act >>= next) past b past') :
    ∃ a between, Leads act past a between ∧ Leads (next a) between b past' := by
  obtain ⟨s, w, h⟩ := h
  exact ⟨(act past s w).1.1.1, (act past s w).1.1.2, ⟨s, w, rfl⟩, (act past s w).1.2,
    (act past s w).2, h⟩

/-- What comes of the rest of an action, if it is known what has come of its first part. -/
theorem of_eq {act : Recording ε σ α} {next : α → Recording ε σ β} {s : σ} {w : Sandbox}
    {between : List ε} (h : ((act >>= next) past s w).1.1 = (b, past'))
    (hact : (act past s w).1.1 = (a, between)) : Leads (next a) between b past' := by
  refine ⟨(act past s w).1.2, (act past s w).2, ?_⟩
  have hrest : (next (act past s w).1.1.1 (act past s w).1.1.2 (act past s w).1.2
      (act past s w).2).1.1 = (b, past') := h
  rw [hact] at hrest
  exact hrest

theorem of_note {x : ε} {u : Unit} (h : Leads (note x : Recording ε σ Unit) past u past') :
    past' = x :: past := by
  obtain ⟨s, w, h⟩ := h
  exact (Prod.mk.inj h).2.symm

theorem of_get (h : Leads (get : Recording ε σ (List ε)) past past₁ past') :
    past₁ = past ∧ past' = past := by
  obtain ⟨s, w, h⟩ := h
  obtain ⟨h₁, h₂⟩ := Prod.mk.inj h
  exact ⟨h₁.symm, h₂.symm⟩

/-- What does not see the record leaves it alone. -/
theorem of_lift {act : StateT σ (StateM Sandbox) α} (h : Leads (StateT.lift act) past a past') :
    past' = past := by
  obtain ⟨s, w, h⟩ := h
  exact (Prod.mk.inj h).2.symm

/-- What is said is not on the record. -/
theorem of_say {e : Console.Entry} {u : Unit}
    (h : Leads (Journal.say e : Recording ε σ Unit) past u past') : past' = past := by
  have hl : Leads (StateT.lift (Journal.say e : StateT σ (StateM Sandbox) Unit)) past u past' := h
  exact hl.of_lift

/-- What is done for each member of a list is on the record in that order. -/
theorem of_forM {ι : Type} {f : ι → Recording ε σ Unit} {new : ι → List ε}
    (hf : ∀ i past u past', Leads (f i) past u past' → past' = new i ++ past) {is : List ι}
    {u : Unit} (h : Leads (is.forM f) past u past') : past' = is.reverse.flatMap new ++ past := by
  induction is generalizing past with
  | nil => exact h.of_pure.2
  | cons i is ih =>
    obtain ⟨u', between, h₁, h⟩ := h.of_bind
    rw [ih h, hf i _ _ _ h₁]
    simp

/-- What is said for each member of a list is not on the record. -/
theorem of_forM_say {ι : Type} {e : ι → Console.Entry} {is : List ι} {u : Unit}
    (h : Leads (is.forM fun i => Journal.say (e i) : Recording ε σ Unit) past u past') :
    past' = past := by
  have hf : ∀ i past u past', Leads (Journal.say (e i) : Recording ε σ Unit) past u past' →
      past' = (fun _ => []) i ++ past := fun i past u past' h => h.of_say
  rw [of_forM hf h, List.flatMap_eq_nil_iff.mpr fun _ _ => rfl]
  rfl

end Leads

end Recording

end LivePreview
