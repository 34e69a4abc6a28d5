import LivePreview.Guard.Insertion

/-!
# The order of insertions

1. Sorting finds the one arrangement in which all that comes earlier is strictly smaller
   (`mergeSort_eq_of_perm`), so that insertions in the order `Before` are spliced as they stand
   (`splice_eq_emit`).
2. What a loop puts in has a level: its wrapper's is twice its number, and its body's is one more.
   At one offset lower levels open first and close last.
3. `Within` says that insertions lie between two offsets, in order, and leave room for what is put
   around them. Stretches of source that follow one another join (`Within.append`); around a stretch
   a pair of a lower level can be put (`Within.opened`, `Within.closed`).
-/

namespace LivePreview.Guard

/-! ## Sorting -/

/-- Of two members of an ordered list one comes first. -/
theorem eq_or_of_pairwise {α : Type} {R : α → α → Prop} {l : List α} (h : l.Pairwise R) {a b : α}
    (ha : a ∈ l) (hb : b ∈ l) : a = b ∨ R a b ∨ R b a := by
  induction h with
  | nil => exact nomatch ha
  | cons hx hl ih =>
    rcases List.mem_cons.mp ha with rfl | ha'
    · rcases List.mem_cons.mp hb with rfl | hb'
      · exact .inl rfl
      · exact .inr (.inl (hx b hb'))
    · rcases List.mem_cons.mp hb with rfl | hb'
      · exact .inr (.inr (hx a ha'))
      · exact ih ha' hb'

/-- Sorting finds the arrangement in which earlier means strictly smaller. -/
theorem mergeSort_eq_of_perm {α : Type} {le : α → α → Bool} {found sorted : List α}
    (htrans : ∀ a b c, le a b = true → le b c = true → le a c = true)
    (htotal : ∀ a b, (le a b || le b a) = true) (hp : found.Perm sorted)
    (hs : sorted.Pairwise fun a b => le b a = false) : found.mergeSort le = sorted := by
  have hperm : (found.mergeSort le).Perm sorted := (List.mergeSort_perm found le).trans hp
  refine hperm.eq_of_pairwise ?_ (List.pairwise_mergeSort htrans htotal found) (hs.imp ?_)
  · intro a b ha hb hab hba
    rcases eq_or_of_pairwise hs (hperm.mem_iff.mp ha) hb with h | h | h
    · exact h
    · exact nomatch h.symm.trans hba
    · exact nomatch h.symm.trans hab
  · intro a b h
    have hab := htotal a b
    rw [h, Bool.or_false] at hab
    exact hab

namespace Insertion

/-- An insertion comes before another, whatever is sorted with them. -/
def Before (a b : Insertion) : Prop :=
  a.offset < b.offset ∨ a.offset = b.offset ∧
    (a.edge = .close ∧ b.edge = .open ∨ a.edge = b.edge ∧
      (a.rank < b.rank ∨ a.rank = b.rank ∧ a.part < b.part))

theorem le_eq_false_iff (a b : Insertion) : le a b = false ↔ Before b a := by
  obtain ⟨o₁, e₁, s₁, p₁, t₁⟩ := a
  obtain ⟨o₂, e₂, s₂, p₂, t₂⟩ := b
  cases e₁ <;> cases e₂ <;> simp [le, Before, rank] <;> grind

theorem le_iff (a b : Insertion) : le a b = true ↔ ¬ Before b a := by
  rw [← le_eq_false_iff, Bool.not_eq_false]

theorem le_trans (a b c : Insertion) (hab : le a b = true) (hbc : le b c = true) :
    le a c = true := by
  rw [le_iff] at hab hbc ⊢
  obtain ⟨o₁, e₁, s₁, p₁, t₁⟩ := a
  obtain ⟨o₂, e₂, s₂, p₂, t₂⟩ := b
  obtain ⟨o₃, e₃, s₃, p₃, t₃⟩ := c
  cases e₁ <;> cases e₂ <;> cases e₃ <;> simp [Before, rank] at hab hbc ⊢ <;> omega

theorem le_total (a b : Insertion) : (le a b || le b a) = true := by
  rw [Bool.or_eq_true, le_iff, le_iff]
  obtain ⟨o₁, e₁, s₁, p₁, t₁⟩ := a
  obtain ⟨o₂, e₂, s₂, p₂, t₂⟩ := b
  cases e₁ <;> cases e₂ <;> simp [Before, rank] <;> omega

end Insertion

/-- Insertions are put in as they stand if they stand in order. -/
theorem splice_eq_emit {source : List Char} {found sorted : List Insertion}
    (hp : found.Perm sorted) (hs : sorted.Pairwise Insertion.Before) :
    splice source found = emit 0 source sorted := by
  unfold splice
  rw [mergeSort_eq_of_perm Insertion.le_trans Insertion.le_total hp]
  exact hs.imp fun h => (Insertion.le_eq_false_iff _ _).mpr h

/-! ## Levels -/

/-- The level of an insertion. What opens and what closes it are of one level. -/
def Insertion.level (e : Insertion) : Int :=
  match e.edge with
  | .open => 2 * e.seq + e.part
  | .close => 2 * e.seq + 1 - e.part

/-- At one offset what closes comes first. Lower levels open first and close last. -/
theorem Insertion.before_of_level {a b : Insertion} (ho : a.offset = b.offset) (ha : a.part ≤ 1)
    (hb : b.part ≤ 1)
    (h : a.edge = .close ∧ b.edge = .open ∨ a.edge = .open ∧ b.edge = .open ∧ a.level < b.level ∨
      a.edge = .close ∧ b.edge = .close ∧ b.level < a.level) : a.Before b := by
  refine .inr ⟨ho, ?_⟩
  obtain ⟨o₁, e₁, s₁, p₁, t₁⟩ := a
  obtain ⟨o₂, e₂, s₂, p₂, t₂⟩ := b
  cases e₁ <;> cases e₂ <;> simp [level, rank] at h ha hb ⊢ <;> omega

/-- Insertions between two offsets, in order. Those that open are of level `n` and more, those that
close of level `m` and more. None closes at the start and none opens at the end. -/
structure Within (start stop : Nat) (n m : Int) (es : List Insertion) : Prop where
  sorted : es.Pairwise Insertion.Before
  offset : ∀ e ∈ es, start ≤ e.offset ∧ e.offset ≤ stop
  part : ∀ e ∈ es, e.part ≤ 1
  opens : ∀ e ∈ es, e.edge = .open → e.offset < stop ∧ n ≤ e.level
  closes : ∀ e ∈ es, e.edge = .close → start < e.offset ∧ m ≤ e.level

namespace Within

variable {start stop start' stop' : Nat} {n m n' m' : Int} {es es' : List Insertion}

theorem nil (start stop : Nat) (n m : Int) : Within start stop n m [] :=
  ⟨.nil, fun _ h => (nomatch h), fun _ h => (nomatch h), fun _ h => (nomatch h),
    fun _ h => (nomatch h)⟩

/-- A wider stretch, and lower levels. -/
theorem mono (h : Within start stop n m es) (hstart : start' ≤ start) (hstop : stop ≤ stop')
    (hn : n' ≤ n) (hm : m' ≤ m) : Within start' stop' n' m' es where
  sorted := h.sorted
  offset e he :=
    ⟨Nat.le_trans hstart (h.offset e he).1, Nat.le_trans (h.offset e he).2 hstop⟩
  part := h.part
  opens e he ho :=
    ⟨Nat.lt_of_lt_of_le (h.opens e he ho).1 hstop, Int.le_trans hn (h.opens e he ho).2⟩
  closes e he hc :=
    ⟨Nat.lt_of_le_of_lt hstart (h.closes e he hc).1, Int.le_trans hm (h.closes e he hc).2⟩

/-- Stretches that follow one another join. Where they meet, the first closes and the second
opens. -/
theorem append {mid : Nat} (h : Within start mid n m es) (h' : Within mid stop n m es')
    (hstart : start ≤ mid) (hstop : mid ≤ stop) : Within start stop n m (es ++ es') where
  sorted := by
    refine List.pairwise_append.mpr ⟨h.sorted, h'.sorted, fun a ha b hb => ?_⟩
    have hab := Nat.le_trans (h.offset a ha).2 (h'.offset b hb).1
    by_cases ho : a.offset = b.offset
    · refine Insertion.before_of_level ho (h.part a ha) (h'.part b hb) (.inl ⟨?_, ?_⟩)
      · cases hea : a.edge with
        | close => rfl
        | «open» => have := (h.opens a ha hea).1; have := (h'.offset b hb).1; omega
      · cases heb : b.edge with
        | close => have := (h'.closes b hb heb).1; have := (h.offset a ha).2; omega
        | «open» => rfl
    · exact .inl (Nat.lt_of_le_of_ne hab ho)
  offset e he := by
    rcases List.mem_append.mp he with he | he
    · exact ⟨(h.offset e he).1, Nat.le_trans (h.offset e he).2 hstop⟩
    · exact ⟨Nat.le_trans hstart (h'.offset e he).1, (h'.offset e he).2⟩
  part e he := (List.mem_append.mp he).elim (h.part e) (h'.part e)
  opens e he ho := by
    rcases List.mem_append.mp he with he | he
    · exact ⟨Nat.lt_of_lt_of_le (h.opens e he ho).1 hstop, (h.opens e he ho).2⟩
    · exact h'.opens e he ho
  closes e he hc := by
    rcases List.mem_append.mp he with he | he
    · exact h.closes e he hc
    · exact ⟨Nat.lt_of_le_of_lt hstart (h'.closes e he hc).1, (h'.closes e he hc).2⟩

/-- A stretch with an opening of a lower level in front. -/
theorem opened {i : Insertion} (h : Within start stop (n + 1) m es) (hlt : start < stop)
    (ho : i.offset = start) (he : i.edge = .open) (hl : i.level = n) (hp : i.part ≤ 1) :
    Within start stop n m (i :: es) where
  sorted := by
    refine List.pairwise_cons.mpr ⟨fun b hb => ?_, h.sorted⟩
    have hb' := h.offset b hb
    by_cases hoff : i.offset = b.offset
    · refine Insertion.before_of_level hoff hp (h.part b hb) (.inr (.inl ⟨he, ?_⟩))
      cases heb : b.edge with
      | close => have := (h.closes b hb heb).1; omega
      | «open» => have := (h.opens b hb heb).2; exact ⟨rfl, by omega⟩
    · exact .inl (by omega)
  offset := List.forall_mem_cons.mpr ⟨by omega, h.offset⟩
  part := List.forall_mem_cons.mpr ⟨hp, h.part⟩
  opens := List.forall_mem_cons.mpr ⟨fun _ => by omega, fun e hm hopen =>
    ⟨(h.opens e hm hopen).1, by have := (h.opens e hm hopen).2; omega⟩⟩
  closes := List.forall_mem_cons.mpr ⟨fun hc => (nomatch he.symm.trans hc), h.closes⟩

/-- A stretch with a closing of a lower level behind. -/
theorem closed {i : Insertion} (h : Within start stop n (m + 1) es) (hlt : start < stop)
    (ho : i.offset = stop) (he : i.edge = .close) (hl : i.level = m) (hp : i.part ≤ 1) :
    Within start stop n m (es ++ [i]) where
  sorted := by
    refine List.pairwise_append.mpr ⟨h.sorted, List.pairwise_singleton _ _, fun a ha b hb => ?_⟩
    rw [List.mem_singleton.mp hb]
    have ha' := h.offset a ha
    by_cases hoff : a.offset = i.offset
    · refine Insertion.before_of_level hoff (h.part a ha) hp (.inr (.inr ?_))
      cases hea : a.edge with
      | close => have := (h.closes a ha hea).2; exact ⟨rfl, he, by omega⟩
      | «open» => have := (h.opens a ha hea).1; omega
    · exact .inl (by omega)
  offset e hm := by
    rcases List.mem_append.mp hm with hm | hm
    · exact h.offset e hm
    · rw [List.mem_singleton.mp hm]; omega
  part e hm := by
    rcases List.mem_append.mp hm with hm | hm
    · exact h.part e hm
    · rw [List.mem_singleton.mp hm]; exact hp
  opens e hm hopen := by
    rcases List.mem_append.mp hm with hm | hm
    · exact h.opens e hm hopen
    · rw [List.mem_singleton.mp hm, he] at hopen; cases hopen
  closes e hm hc := by
    rcases List.mem_append.mp hm with hm | hm
    · exact ⟨(h.closes e hm hc).1, by have := (h.closes e hm hc).2; omega⟩
    · rw [List.mem_singleton.mp hm]; omega

end Within

end LivePreview.Guard
