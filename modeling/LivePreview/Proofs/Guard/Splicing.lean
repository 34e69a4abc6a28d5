import LivePreview.Proofs.Guard.Order
import LivePreview.Proofs.Text.Boundary
import Mathlib.Algebra.Ring.Nat
import Mathlib.Tactic.MkIffOfInductiveProp

/-!
# What is spliced in, offset by offset

1. At one offset insertions go in the order `Ahead`, and those that it does not tell apart go in the
   order in which they are given. The insertions of an offset have one such arrangement, and
   sorting finds it (`arranged_iff_eq_placed`).
2. `interleave put 0 source` is the source with texts put in front of its characters and at its
   end, by offset. Splicing interleaves the source with the arranged texts
   (`emit_eq_interleave`), and what was put in can be taken out again (`withdraw_interleave`).
3. A rearrangement in which insertions of one key stay in order is sorted alike
   (`mergeSort_congr`).
-/

namespace LivePreview.Guard

open Text (IsBoundary takeBytes dropBytes byteLength)

/-! ## Stable sorting -/

section

variable {α : Type} {le : α → α → Bool}

/-- Two members that an order does not tell apart. -/
def tied (le : α → α → Bool) (a b : α) : Bool := le a b && le b a

/-- Sorting leaves members that the order does not tell apart as they stand. -/
theorem filter_tied_mergeSort (htrans : ∀ a b c, le a b = true → le b c = true → le a c = true)
    (htotal : ∀ a b, (le a b || le b a) = true) (l : List α) (a : α) :
    (l.mergeSort le).filter (tied le a) = l.filter (tied le a) := by
  have hties : (l.filter (tied le a)).Pairwise fun b c => le b c = true := by
    refine List.pairwise_of_forall_mem_list fun b hb c hc => ?_
    have hab := (List.mem_filter.mp hb).2
    have hac := (List.mem_filter.mp hc).2
    simp only [tied, Bool.and_eq_true] at hab hac
    exact htrans b a c hab.2 hac.1
  have hsub : (l.filter (tied le a)).Sublist (l.mergeSort le) :=
    List.sublist_mergeSort htrans htotal hties List.filter_sublist
  have hfilter := hsub.filter (tied le a)
  rw [List.filter_filter] at hfilter
  simp only [Bool.and_self] at hfilter
  exact (hfilter.eq_of_length (((List.mergeSort_perm l le).filter _).length_eq.symm)).symm

/-- Two sorted lists of the same members are one if what the order does not tell apart stands in
both as in the other. -/
theorem eq_of_filter_tied (htotal : ∀ a b, (le a b || le b a) = true) {l l' : List α}
    (hp : l.Perm l') (hl : l.Pairwise fun a b => le a b = true)
    (hl' : l'.Pairwise fun a b => le a b = true)
    (h : ∀ a ∈ l', l.filter (tied le a) = l'.filter (tied le a)) : l = l' := by
  have hself : ∀ a, le a a = true := fun a => by simpa using htotal a a
  induction l generalizing l' with
  | nil => exact hp.nil_eq
  | cons a l ih =>
    cases l' with
    | nil => exact hp.eq_nil
    | cons b l' =>
      obtain ⟨hal, hrest⟩ := List.pairwise_cons.mp hl
      obtain ⟨hbl, hrest'⟩ := List.pairwise_cons.mp hl'
      -- each head is a member of the other list, so that the order does not tell them apart
      have hab : le a b = true := by
        rcases List.mem_cons.mp (hp.mem_iff.mpr List.mem_cons_self) with rfl | hb
        · exact hself b
        · exact hal b hb
      have hba : le b a = true := by
        rcases List.mem_cons.mp (hp.mem_iff.mp List.mem_cons_self) with rfl | ha
        · exact hself a
        · exact hbl a ha
      have hhead := h b List.mem_cons_self
      rw [List.filter_cons_of_pos (by simp [tied, hab, hba]),
        List.filter_cons_of_pos (by simp [tied, hself b])] at hhead
      obtain ⟨rfl, -⟩ := List.cons.inj hhead
      refine congrArg (a :: ·) (ih hp.cons_inv hrest hrest' fun c hmem => ?_)
      have hc := h c (List.mem_cons_of_mem a hmem)
      by_cases hca : tied le c a = true
      · rw [List.filter_cons_of_pos hca, List.filter_cons_of_pos hca] at hc
        exact (List.cons.inj hc).2
      · rw [List.filter_cons_of_neg hca, List.filter_cons_of_neg hca] at hc
        exact hc

end

/-! ## Arranging the insertions of an offset -/

namespace Insertion

/-- All that the order of insertions looks at. -/
def key (e : Insertion) : Nat × Edge × Int × Nat := (e.offset, e.edge, e.seq, e.part)

/-- At one offset an insertion goes before another. -/
@[mk_iff] inductive Ahead (a b : Insertion) : Prop where
  /-- What closes goes before what opens. -/
  | edge (ha : a.edge = .close) (hb : b.edge = .open)
  /-- Inner loops close first. -/
  | inner (ha : a.edge = .close) (hb : b.edge = .close) (h : b.seq < a.seq)
  /-- Outer loops open first. -/
  | outer (ha : a.edge = .open) (hb : b.edge = .open) (h : a.seq < b.seq)
  | part (he : a.edge = b.edge) (hs : a.seq = b.seq) (h : a.part < b.part)

instance (a b : Insertion) : Decidable (Ahead a b) := decidable_of_iff _ (ahead_iff a b).symm

/-- At one offset an insertion comes before another if it goes ahead of it. -/
theorem before_iff_ahead {a b : Insertion} (ho : a.offset = b.offset) :
    Before a b ↔ Ahead a b := by
  constructor
  · rintro (h | ⟨-, ⟨ha, hb⟩ | ⟨he, h⟩⟩)
    · omega
    · exact .edge ha hb
    · rcases h with h | ⟨hr, hp⟩
      · cases hb : b.edge <;> simp only [rank, he, hb] at h
        · exact .inner (he.trans hb) hb (by omega)
        · exact .outer (he.trans hb) hb h
      · refine .part he ?_ hp
        cases hb : b.edge <;> simp only [rank, he, hb] at hr <;> omega
  · intro h
    refine .inr ⟨ho, ?_⟩
    cases h with
    | edge ha hb => exact .inl ⟨ha, hb⟩
    | inner ha hb h => exact .inr ⟨ha.trans hb.symm, .inl (by simp only [rank, ha, hb]; omega)⟩
    | outer ha hb h => exact .inr ⟨ha.trans hb.symm, .inl (by simpa only [rank, ha, hb] using h)⟩
    | part he hs h => exact .inr ⟨he, .inr ⟨by simp only [rank, he, hs], h⟩⟩

/-- The order does not tell insertions of one key apart, and no others. -/
theorem tied_iff {a b : Insertion} : tied le a b = true ↔ b.key = a.key := by
  rw [tied, Bool.and_eq_true, le_iff, le_iff]
  obtain ⟨o₁, e₁, s₁, p₁, t₁⟩ := a
  obtain ⟨o₂, e₂, s₂, p₂, t₂⟩ := b
  cases e₁ <;> cases e₂ <;> simp [Before, rank, key] <;> omega

theorem filter_tied (l : List Insertion) (e : Insertion) :
    l.filter (tied le e) = l.filter fun i => i.key = e.key := by
  refine List.filter_congr fun i _ => ?_
  rw [Bool.eq_iff_iff, tied_iff, decide_eq_true_iff]

end Insertion

/-- Insertions are those that are given for an offset, in the order `Insertion.Ahead`; those of one
key are in the order in which they are given. -/
@[mk_iff] structure Arranged (insertions : List Insertion) (offset : Nat)
    (es : List Insertion) : Prop where
  perm : es.Perm (insertions.filter fun e => e.offset = offset)
  ordered : es.Pairwise fun a b => ¬ b.Ahead a
  stable : ∀ e ∈ es, es.filter (fun i => i.key = e.key) = insertions.filter fun i => i.key = e.key

instance (insertions : List Insertion) (offset : Nat) (es : List Insertion) :
    Decidable (Arranged insertions offset es) :=
  decidable_of_iff _ (arranged_iff insertions offset es).symm

/-- The insertions of an offset as sorting arranges them. -/
def placed (insertions : List Insertion) (offset : Nat) : List Insertion :=
  (insertions.mergeSort Insertion.le).filter fun e => e.offset = offset

section

variable {insertions es : List Insertion} {offset : Nat}

/-- Sorting leaves insertions of one key as they are given. -/
theorem filter_key_mergeSort (insertions : List Insertion) (e : Insertion) :
    (insertions.mergeSort Insertion.le).filter (fun i => i.key = e.key) =
      insertions.filter fun i => i.key = e.key := by
  rw [← Insertion.filter_tied, ← Insertion.filter_tied]
  exact filter_tied_mergeSort Insertion.le_trans Insertion.le_total insertions e

theorem filter_key_filter_offset {l : List Insertion} {e : Insertion} (he : e.offset = offset) :
    (l.filter fun i => i.offset = offset).filter (fun i => i.key = e.key) =
      l.filter fun i => i.key = e.key := by
  rw [List.filter_filter]
  refine List.filter_congr fun i _ => ?_
  simp only [Insertion.key, Prod.mk.injEq, Bool.decide_and]
  by_cases hi : i.offset = offset <;> simp [hi, he]

theorem arranged_placed (insertions : List Insertion) (offset : Nat) :
    Arranged insertions offset (placed insertions offset) where
  perm := (List.mergeSort_perm _ _).filter _
  ordered := by
    have hsorted := List.pairwise_mergeSort Insertion.le_trans Insertion.le_total insertions
    refine (hsorted.sublist List.filter_sublist).imp_of_mem fun {a b} ha hb hab => ?_
    have hao : a.offset = offset := by simpa using (List.mem_filter.mp ha).2
    have hbo : b.offset = offset := by simpa using (List.mem_filter.mp hb).2
    rw [← Insertion.before_iff_ahead (hbo.trans hao.symm)]
    exact (Insertion.le_iff a b).mp hab
  stable := by
    intro e he
    have heo : e.offset = offset := by simpa using (List.mem_filter.mp he).2
    rw [placed, filter_key_filter_offset heo]
    exact filter_key_mergeSort insertions e

namespace Arranged

theorem offset_eq (h : Arranged insertions offset es) {e : Insertion} (he : e ∈ es) :
    e.offset = offset := by
  simpa using (List.mem_filter.mp (h.perm.mem_iff.mp he)).2

theorem sorted (h : Arranged insertions offset es) :
    es.Pairwise fun a b => Insertion.le a b = true := by
  refine h.ordered.imp_of_mem fun {a b} ha hb hab => ?_
  rw [Insertion.le_iff, Insertion.before_iff_ahead ((h.offset_eq hb).trans (h.offset_eq ha).symm)]
  exact hab

/-- The insertions of an offset have one arrangement. -/
theorem unique {es' : List Insertion} (h : Arranged insertions offset es)
    (h' : Arranged insertions offset es') : es = es' := by
  have hp : es.Perm es' := h.perm.trans h'.perm.symm
  refine eq_of_filter_tied Insertion.le_total hp h.sorted h'.sorted fun e he => ?_
  rw [Insertion.filter_tied, Insertion.filter_tied, h.stable e (hp.mem_iff.mpr he),
    h'.stable e he]

end Arranged

/-- Sorting finds the arrangement of an offset. -/
theorem arranged_iff_eq_placed : Arranged insertions offset es ↔ es = placed insertions offset :=
  ⟨fun h => h.unique (arranged_placed insertions offset), fun h => h ▸ arranged_placed _ _⟩

/-- A rearrangement is sorted alike if insertions of one key stay in order. -/
theorem mergeSort_congr {found : List Insertion} (hp : found.Perm insertions)
    (h : ∀ e ∈ insertions, found.filter (fun i => i.key = e.key) =
      insertions.filter fun i => i.key = e.key) :
    found.mergeSort Insertion.le = insertions.mergeSort Insertion.le := by
  have hperm := List.mergeSort_perm insertions Insertion.le
  refine eq_of_filter_tied Insertion.le_total
    ((List.mergeSort_perm found _).trans (hp.trans hperm.symm))
    (List.pairwise_mergeSort Insertion.le_trans Insertion.le_total found)
    (List.pairwise_mergeSort Insertion.le_trans Insertion.le_total insertions) fun e he => ?_
  rw [Insertion.filter_tied, Insertion.filter_tied, filter_key_mergeSort, filter_key_mergeSort]
  exact h e (hperm.mem_iff.mp he)

end

/-! ## Interleaving -/

/-- A text from byte `n` on with others put in, by offset: in front of its characters and at its
end. -/
def interleave (put : Nat → List Char) : Nat → List Char → List Char
  | n, [] => put n
  | n, c :: cs => put n ++ c :: interleave put (n + c.utf8Size) cs

/-- A text without what was put into it: at each offset as many characters are left out as were put
in there. -/
def withdraw (width : Nat → Nat) (n : Nat) (cs : List Char) : List Char :=
  match _h : cs.drop (width n) with
  | [] => []
  | c :: rest => c :: withdraw width (n + c.utf8Size) rest
termination_by cs.length
decreasing_by
  have hlength := congrArg List.length _h
  simp only [List.length_drop, List.length_cons] at hlength
  omega

section

variable {put put' : Nat → List Char} {n k : Nat} {cs : List Char}

theorem interleave_congr (h : ∀ m ≥ n, put m = put' m) :
    interleave put n cs = interleave put' n cs := by
  induction cs generalizing n with
  | nil => exact h n (Nat.le_refl n)
  | cons c cs ih =>
    unfold interleave
    rw [h n (Nat.le_refl n), ih fun m hm => h m (by omega)]

theorem interleave_nothing (n : Nat) (cs : List Char) : interleave (fun _ => []) n cs = cs := by
  induction cs generalizing n with
  | nil => rfl
  | cons c cs ih => simp only [interleave, List.nil_append, ih]

/-- What is put in first goes first. -/
theorem interleave_front {text : List Char} (hn : put n = text ++ put' n)
    (h : ∀ m > n, put m = put' m) : interleave put n cs = text ++ interleave put' n cs := by
  cases cs with
  | nil => exact hn
  | cons c cs =>
    have hc := c.utf8Size_pos
    unfold interleave
    rw [hn, interleave_congr fun m hm => h m (by omega), List.append_assoc]

/-- Where nothing is put in up to a boundary, the text goes on as it is up to there. -/
theorem interleave_skip (hb : IsBoundary cs k) (h : ∀ m, n ≤ m → m < n + k → put m = []) :
    interleave put n cs = takeBytes k cs ++ interleave put (n + k) (dropBytes k cs) := by
  induction cs generalizing n k with
  | nil =>
    -- a text of no characters has no boundary but its start
    have hk : 0 = k := hb
    subst hk
    rfl
  | cons c cs ih =>
    cases k with
    | zero => rw [Text.takeBytes_zero, Text.dropBytes_zero, Nat.add_zero, List.nil_append]
    | succ k =>
      obtain ⟨hle, htail⟩ := hb.tail
      have hc := c.utf8Size_pos
      rw [interleave, takeBytes, dropBytes, h n (Nat.le_refl n) (by omega), List.nil_append,
        List.cons_append, ih htail fun m hm hlt => h m (by omega) (by omega),
        show n + c.utf8Size + (k + 1 - c.utf8Size) = n + (k + 1) by omega]

/-- What was put into a text can be taken out again. -/
theorem withdraw_interleave (put : Nat → List Char) (n : Nat) (cs : List Char) :
    withdraw (fun m => (put m).length) n (interleave put n cs) = cs := by
  induction cs generalizing n with
  | nil =>
    have hdrop : (interleave put n []).drop (put n).length = [] := List.drop_length
    rw [withdraw]
    split
    · rfl
    · next hcut => exact nomatch hdrop.symm.trans hcut
  | cons c cs ih =>
    have hdrop : (interleave put n (c :: cs)).drop (put n).length =
        c :: interleave put (n + c.utf8Size) cs := List.drop_left
    rw [withdraw]
    split
    · next hcut => exact nomatch hdrop.symm.trans hcut
    · next hcut =>
      obtain ⟨rfl, rfl⟩ := List.cons.inj (hdrop.symm.trans hcut)
      rw [ih]

end

/-! ## Splicing -/

/-- Putting sorted insertions in one after the other interleaves. -/
theorem emit_eq_interleave {es : List Insertion} {n : Nat} {cs : List Char}
    (hs : es.Pairwise fun a b => a.offset ≤ b.offset)
    (hb : ∀ e ∈ es, n ≤ e.offset ∧ IsBoundary cs (e.offset - n)) :
    emit n cs es =
      interleave (fun m => (es.filter fun e => e.offset = m).flatMap Insertion.text) n cs := by
  induction es generalizing n cs with
  | nil => exact (interleave_nothing n cs).symm
  | cons e es ih =>
    obtain ⟨hfirst, hs⟩ := List.pairwise_cons.mp hs
    obtain ⟨hn, he⟩ := hb e List.mem_cons_self
    have hrest : ∀ i ∈ es, e.offset ≤ i.offset ∧
        IsBoundary (dropBytes (e.offset - n) cs) (i.offset - e.offset) := by
      intro i hi
      have hle := hfirst i hi
      have hsub := he.sub (hb i (List.mem_cons_of_mem e hi)).2 (by omega)
      rw [show i.offset - n - (e.offset - n) = i.offset - e.offset by omega] at hsub
      exact ⟨hle, hsub⟩
    have hnone : ∀ m, n ≤ m → m < n + (e.offset - n) →
        ((e :: es).filter fun i => i.offset = m).flatMap Insertion.text = [] := by
      intro m _ hlt
      rw [List.filter_eq_nil_iff.mpr, List.flatMap_nil]
      intro i hi
      have hle : e.offset ≤ i.offset := by
        rcases List.mem_cons.mp hi with rfl | hi
        · exact Nat.le_refl _
        · exact hfirst i hi
      simp only [decide_eq_true_eq]
      omega
    rw [interleave_skip he hnone, Nat.add_sub_cancel' hn, emit, ih hs hrest, List.append_assoc]
    refine congrArg _ (Eq.symm (interleave_front ?_ fun m hm => ?_))
    · rw [List.filter_cons_of_pos (by simp), List.flatMap_cons]
    · rw [List.filter_cons_of_neg (by simp; omega)]

theorem splice_eq_interleave {source : List Char} {insertions : List Insertion}
    (h : ∀ e ∈ insertions, IsBoundary source e.offset) :
    splice source insertions =
      interleave (fun n => (placed insertions n).flatMap Insertion.text) 0 source := by
  have hsorted := List.pairwise_mergeSort Insertion.le_trans Insertion.le_total insertions
  refine emit_eq_interleave (hsorted.imp fun {a b} hab => ?_) fun e he => ?_
  · have hnot := (Insertion.le_iff a b).mp hab
    exact Nat.not_lt.mp fun hlt => hnot (.inl hlt)
  · exact ⟨Nat.zero_le _, h e ((List.mergeSort_perm _ _).mem_iff.mp he)⟩

theorem byteLength_emit (n : Nat) (cs : List Char) (es : List Insertion) :
    byteLength (emit n cs es) = byteLength cs + (es.map fun e => byteLength e.text).sum := by
  induction es generalizing n cs with
  | nil => rfl
  | cons e es ih =>
    have hcut := congrArg byteLength (Text.takeBytes_append_dropBytes (e.offset - n) cs)
    simp only [emit, Text.byteLength_append, List.map_cons, List.sum_cons, ih] at hcut ⊢
    omega

/-! ## The main theorem -/

/-- **What splicing comes to**, for insertions at boundaries of the source.

1. The insertions of each offset have one arrangement: what closes goes before what opens, inner
   loops close first and outer ones open first, then the part decides, and insertions of one key
   stay in the order of the list.
2. The text is the source with the arranged texts of every offset put in there. Taking out as many
   characters as were put in at each offset gives back the source.
3. The text is as long as the source and all insertions together.
4. Another order of the list, in which insertions of one key stay in order, makes the same text. -/
theorem splice_puts_in_place (source : List Char) (insertions : List Insertion)
    (h : ∀ e ∈ insertions, IsBoundary source e.offset) :
    ∃ arranged : Nat → List Insertion,
      (∀ offset es, Arranged insertions offset es ↔ es = arranged offset) ∧
      splice source insertions =
        interleave (fun n => (arranged n).flatMap Insertion.text) 0 source ∧
      withdraw (fun n => ((arranged n).flatMap Insertion.text).length) 0
        (splice source insertions) = source ∧
      byteLength (splice source insertions) =
        byteLength source + (insertions.map fun e => byteLength e.text).sum ∧
      ∀ found : List Insertion, found.Perm insertions →
        (∀ e ∈ insertions, found.filter (fun i => i.key = e.key) =
          insertions.filter fun i => i.key = e.key) →
        splice source found = splice source insertions := by
  have hsplice := splice_eq_interleave h
  refine ⟨placed insertions, fun offset es => arranged_iff_eq_placed, hsplice, ?_, ?_, ?_⟩
  · rw [hsplice]
    exact withdraw_interleave _ 0 source
  · rw [splice, byteLength_emit]
    exact congrArg _ ((List.mergeSort_perm _ _).map _).sum_nat
  · intro found hp hkeys
    rw [splice, splice, mergeSort_congr hp hkeys]

/-- Two loops that end where another starts, behind a character of two bytes. -/
theorem splice_puts_in_place_shared :
    let source : List Char := ['é', 'x']
    let insertions : List Insertion := [⟨2, .open, 2, 0, ['d']⟩, ⟨2, .close, 0, 1, ['c']⟩,
      ⟨3, .close, 2, 1, ['e']⟩, ⟨2, .close, 1, 1, ['b']⟩, ⟨2, .close, 1, 1, ['B']⟩]
    let moved : List Insertion := [⟨2, .close, 1, 1, ['b']⟩, ⟨2, .close, 0, 1, ['c']⟩,
      ⟨2, .close, 1, 1, ['B']⟩, ⟨3, .close, 2, 1, ['e']⟩, ⟨2, .open, 2, 0, ['d']⟩]
    (∀ e ∈ insertions, IsBoundary source e.offset) ∧
      splice source insertions = ['é', 'b', 'B', 'c', 'd', 'x', 'e'] ∧
      byteLength (splice source insertions) = 8 ∧
      splice source moved = splice source insertions := by
  intro source insertions moved
  have hb : ∀ e ∈ insertions, IsBoundary source e.offset := by decide
  obtain ⟨arranged, harranged, hsplice, -, hlength, hmoved⟩ :=
    splice_puts_in_place source insertions hb
  have hput : ∀ offset es, Arranged insertions offset es → arranged offset = es :=
    fun offset es h => ((harranged offset es).mp h).symm
  refine ⟨hb, ?_, hlength, hmoved moved (by decide) (by decide)⟩
  rw [hsplice]
  show (arranged 0).flatMap _ ++
    'é' :: ((arranged 2).flatMap _ ++ 'x' :: (arranged 3).flatMap _) = _
  rw [hput 0 [] (by decide), hput 3 [⟨3, .close, 2, 1, ['e']⟩] (by decide),
    hput 2 [⟨2, .close, 1, 1, ['b']⟩, ⟨2, .close, 1, 1, ['B']⟩, ⟨2, .close, 0, 1, ['c']⟩,
      ⟨2, .open, 2, 0, ['d']⟩] (by decide)]
  rfl

end LivePreview.Guard
