import LivePreview.Guard.Outline
import LivePreview.Proofs.Guard.Order
import LivePreview.Proofs.Script.Fold
import LivePreview.Proofs.Text.Boundary

/-!
# Loops and labels as they nest

1. A nest is a loop or a labelled statement with the nests inside it. The nests of a node are its
   fold (`Nest.ofNode`); whatever else there is in a tree holds nests and is none.
2. Types lie beside the tree of a script. Their nests are put where their bytes lie (`Nest.put`).
3. The landmarks of the nests of a script are, in some order, those that its outline sorts
   (`landmarksAll_ofNodes`). If the nests fit the source they come in the order of their starts, so
   that they are the outline (`outline_eq`).
-/

namespace LivePreview.Guard

open Script (Span Node)
open Text (IsBoundary)

/-- A loop or a labelled statement, with those inside it. -/
inductive Nest where
  /-- What is labelled starts at `bodyStart`. -/
  | labelled (span : Span) (bodyStart : Nat) (inside : List Nest)
  /-- A loop, with what is in front of its body, in it and behind it. -/
  | loop (span body : Span) (isBlock : Bool) (before inside behind : List Nest)

namespace Nest

/-- The bytes that a nest covers. -/
def span : Nest → Span
  | labelled span .. | loop span .. => span

/-- The first byte of a nest. -/
def start (t : Nest) : Nat := t.span.start

/-- The byte behind a nest. -/
def stop (t : Nest) : Nat := t.span.stop

/-- What holds of a nest whenever it holds of those inside it holds of every nest. -/
theorem nesting_induction {P : Nest → Prop}
    (labelled : ∀ span bodyStart inside, (∀ t ∈ inside, P t) → P (labelled span bodyStart inside))
    (loop : ∀ span body isBlock before inside behind, (∀ t ∈ before, P t) → (∀ t ∈ inside, P t) →
      (∀ t ∈ behind, P t) → P (loop span body isBlock before inside behind)) (t : Nest) : P t :=
  @Nest.rec P (fun ts => ∀ t ∈ ts, P t) labelled loop (fun _ h => nomatch h)
    (fun _ _ ht hts => List.forall_mem_cons.mpr ⟨ht, hts⟩) t

/-! ## The nests of a script -/

/-- Nests with another at its place in the order of the source. -/
def place (u : Nest) : List Nest → List Nest
  | [] => [u]
  | t :: ts => if u.start ≤ t.start then u :: t :: ts else t :: place u ts

/-- Nests in the order of the source. -/
def arrange (ts : List Nest) : List Nest := ts.foldr place []

/-- The nests of a node from those of its children. The body of a loop is its last child, or its
first. -/
def ofParts (n : Node) (parts : List (List Nest)) : List Nest :=
  match n.form with
  | .labelled _ body => [labelled n.span body.start (arrange parts.flatten)]
  | .doLoop body _ =>
    [loop n.span body.span (isBlock body) [] (arrange (parts.headD []))
      (arrange parts.tail.flatten)]
  | .whileLoop _ body | .forLoop _ _ _ body | .forInLoop _ _ body | .forOfLoop _ _ _ body =>
    [loop n.span body.span (isBlock body) (arrange parts.dropLast.flatten)
      (arrange (parts.getLastD [])) []]
  | _ => parts.flatten

/-- The nests of a node. -/
def ofNode : Node → List Nest := Node.fold ofParts

mutual

/-- A nest with another put into it, where its first byte lies. -/
def put (u : Nest) : Nest → Nest
  | labelled span bodyStart inside => labelled span bodyStart (putAmong u inside)
  | loop span body isBlock before inside behind =>
    if u.start < body.start then loop span body isBlock (putAmong u before) inside behind
    else if u.start < body.stop then loop span body isBlock before (putAmong u inside) behind
    else loop span body isBlock before inside (putAmong u behind)

/-- Nests with another put among them, or into one of them. -/
def putAmong (u : Nest) : List Nest → List Nest
  | [] => [u]
  | t :: ts =>
    if u.start < t.start then u :: t :: ts
    else if u.start < t.stop then put u t :: ts
    else t :: putAmong u ts

end

/-- The nests of nodes and of types that lie in them, outer types first. -/
def ofNodes (nodes types : List Node) : List Nest :=
  (arrange (types.flatMap ofNode)).foldl (fun ts u => putAmong u ts)
    (arrange (nodes.flatMap ofNode))

mutual

/-- The landmarks of a nest, in the order of the source. -/
def landmarks : Nest → List Landmark
  | labelled span bodyStart inside => .labelled span bodyStart :: landmarksAll inside
  | loop span body isBlock before inside behind =>
    .loop span body isBlock ::
      (landmarksAll before ++ landmarksAll inside ++ landmarksAll behind)

/-- The landmarks of nests. -/
def landmarksAll : List Nest → List Landmark
  | [] => []
  | t :: ts => landmarks t ++ landmarksAll ts

end

theorem landmarksAll_eq_flatMap (ts : List Nest) : landmarksAll ts = ts.flatMap landmarks := by
  induction ts with
  | nil => rw [landmarksAll, List.flatMap_nil]
  | cons t ts ih => rw [landmarksAll, ih, List.flatMap_cons]

theorem landmarksAll_append (ts us : List Nest) :
    landmarksAll (ts ++ us) = landmarksAll ts ++ landmarksAll us := by
  simp only [landmarksAll_eq_flatMap, List.flatMap_append]

theorem place_perm (u : Nest) (ts : List Nest) : (place u ts).Perm (u :: ts) := by
  induction ts with
  | nil => exact .refl _
  | cons t ts ih =>
    unfold place
    by_cases h : u.start ≤ t.start
    · rw [if_pos h]
    · rw [if_neg h]
      exact (ih.cons t).trans (.swap u t ts)

theorem arrange_perm (ts : List Nest) : (arrange ts).Perm ts := by
  induction ts with
  | nil => exact .refl _
  | cons t ts ih => exact (place_perm t _).trans (ih.cons t)

theorem landmarksAll_arrange (ts : List Nest) :
    (landmarksAll (arrange ts)).Perm (landmarksAll ts) := by
  rw [landmarksAll_eq_flatMap, landmarksAll_eq_flatMap]
  exact (arrange_perm ts).flatMap_right landmarks

/-! ## The landmarks of a script -/

/-- The landmarks that are found in a node. -/
def found : Node → List Landmark :=
  Node.fold fun n inside => Landmark.ofNode n ++ inside.flatten

theorem headD_append_flatten_tail {α : Type} (ls : List (List α)) :
    ls.headD [] ++ ls.tail.flatten = ls.flatten := by
  cases ls <;> rfl

theorem flatten_dropLast_append_getLastD {α : Type} (ls : List (List α)) :
    ls.dropLast.flatten ++ ls.getLastD [] = ls.flatten := by
  induction ls with
  | nil => rfl
  | cons l ls ih =>
    cases ls with
    | nil => exact (List.append_nil l).symm
    | cons l' ls =>
      rw [List.dropLast_cons_cons, List.flatten_cons, List.append_assoc, List.flatten_cons, ← ih]
      rfl

/-- A node has its own landmark, if it is one, and those of its parts. -/
theorem landmarksAll_ofParts (n : Node) (parts : List (List Nest)) :
    (landmarksAll (ofParts n parts)).Perm (Landmark.ofNode n ++ landmarksAll parts.flatten) := by
  have hloop : ∀ body before inside behind,
      Landmark.ofNode n = [.loop n.span body.span (isBlock body)] →
      before ++ inside ++ behind = parts.flatten →
      (landmarksAll [loop n.span body.span (isBlock body) (arrange before) (arrange inside)
        (arrange behind)]).Perm (Landmark.ofNode n ++ landmarksAll parts.flatten) := by
    intro body before inside behind hn hparts
    rw [hn, ← hparts, landmarksAll_append, landmarksAll_append]
    simp only [landmarksAll, landmarks, List.append_nil]
    exact (((landmarksAll_arrange before).append (landmarksAll_arrange inside)).append
      (landmarksAll_arrange behind)).cons _
  unfold ofParts
  split
  next label body hf =>
    unfold Landmark.ofNode
    rw [hf]
    simp only [landmarksAll, landmarks, List.append_nil]
    exact (landmarksAll_arrange _).cons _
  next body test hf =>
    refine hloop body [] _ _ (by unfold Landmark.ofNode; rw [hf]) ?_
    exact headD_append_flatten_tail parts
  next test body hf =>
    refine hloop body _ _ [] (by unfold Landmark.ofNode; rw [hf]) ?_
    rw [List.append_nil, flatten_dropLast_append_getLastD]
  next start test step body hf =>
    refine hloop body _ _ [] (by unfold Landmark.ofNode; rw [hf]) ?_
    rw [List.append_nil, flatten_dropLast_append_getLastD]
  next target collection body hf =>
    refine hloop body _ _ [] (by unfold Landmark.ofNode; rw [hf]) ?_
    rw [List.append_nil, flatten_dropLast_append_getLastD]
  next isAwait target collection body hf =>
    refine hloop body _ _ [] (by unfold Landmark.ofNode; rw [hf]) ?_
    rw [List.append_nil, flatten_dropLast_append_getLastD]
  next =>
    unfold Landmark.ofNode
    split
    all_goals first | exact .refl _ | grind

theorem landmarksAll_flatMap_ofNode {ns : List Node}
    (h : ∀ n ∈ ns, (landmarksAll (ofNode n)).Perm (found n)) :
    (landmarksAll (ns.flatMap ofNode)).Perm (ns.flatMap found) := by
  induction ns with
  | nil => exact .refl _
  | cons n ns ih =>
    rw [List.flatMap_cons, List.flatMap_cons, landmarksAll_append]
    exact (h n List.mem_cons_self).append (ih fun m hm => h m (List.mem_cons_of_mem n hm))

/-- The landmarks of the nests of a node are those that are found in it. -/
theorem landmarksAll_ofNode (n : Node) : (landmarksAll (ofNode n)).Perm (found n) := by
  induction n using Node.children_induction with
  | h n ih =>
    rw [ofNode, found, Node.fold_eq, Node.fold_eq]
    refine (landmarksAll_ofParts n _).trans (List.Perm.append_left _ ?_)
    exact landmarksAll_flatMap_ofNode ih

mutual

/-- Putting a nest into another adds its landmarks. -/
theorem landmarks_put (u : Nest) : ∀ t, (landmarks (put u t)).Perm (landmarks u ++ landmarks t)
  | labelled span bodyStart inside => by
    unfold put
    simp only [landmarks]
    exact ((landmarksAll_putAmong u inside).cons _).trans List.perm_middle.symm
  | loop span body isBlock before inside behind => by
    have hbefore := landmarksAll_putAmong u before
    have hinside := landmarksAll_putAmong u inside
    have hbehind := landmarksAll_putAmong u behind
    unfold put
    by_cases hstart : u.start < body.start
    · rw [if_pos hstart]
      simp only [landmarks]
      refine (List.Perm.cons _ ?_).trans List.perm_middle.symm
      rw [List.append_assoc, List.append_assoc, ← List.append_assoc (landmarks u)]
      exact hbefore.append_right _
    · rw [if_neg hstart]
      by_cases hstop : u.start < body.stop
      · rw [if_pos hstop]
        simp only [landmarks]
        refine (List.Perm.cons _ ?_).trans List.perm_middle.symm
        rw [← List.append_assoc]
        refine List.Perm.append_right _ ?_
        exact (hinside.append_left _).trans (List.perm_append_comm_assoc _ _ _)
      · rw [if_neg hstop]
        simp only [landmarks]
        refine (List.Perm.cons _ ?_).trans List.perm_middle.symm
        exact (hbehind.append_left _).trans (List.perm_append_comm_assoc _ _ _)

/-- Putting a nest among others adds its landmarks. -/
theorem landmarksAll_putAmong (u : Nest) :
    ∀ ts, (landmarksAll (putAmong u ts)).Perm (landmarks u ++ landmarksAll ts)
  | [] => .refl _
  | t :: ts => by
    unfold putAmong
    by_cases hstart : u.start < t.start
    · rw [if_pos hstart]
      exact .refl _
    · rw [if_neg hstart]
      by_cases hstop : u.start < t.stop
      · rw [if_pos hstop]
        unfold landmarksAll
        rw [← List.append_assoc]
        exact (landmarks_put u t).append_right _
      · rw [if_neg hstop]
        unfold landmarksAll
        exact ((landmarksAll_putAmong u ts).append_left _).trans (List.perm_append_comm_assoc _ _ _)

end

theorem landmarksAll_foldl_putAmong (us ts : List Nest) :
    (landmarksAll (us.foldl (fun ts u => putAmong u ts) ts)).Perm
      (landmarksAll ts ++ landmarksAll us) := by
  induction us generalizing ts with
  | nil =>
    rw [landmarksAll, List.append_nil]
    exact .refl _
  | cons u us ih =>
    rw [List.foldl_cons, landmarksAll]
    refine (ih _).trans ?_
    refine ((landmarksAll_putAmong u ts).append_right _).trans ?_
    rw [List.append_assoc]
    exact List.perm_append_comm_assoc _ _ _

/-- The landmarks of the nests of a script are those that are found in its nodes and types. -/
theorem landmarksAll_ofNodes (nodes types : List Node) :
    (landmarksAll (ofNodes nodes types)).Perm ((nodes ++ types).flatMap found) := by
  have harrange : ∀ ns : List Node,
      (landmarksAll (arrange (ns.flatMap ofNode))).Perm (ns.flatMap found) := fun ns =>
    (landmarksAll_arrange _).trans (landmarksAll_flatMap_ofNode fun n _ => landmarksAll_ofNode n)
  rw [List.flatMap_append]
  exact (landmarksAll_foldl_putAmong _ _).trans ((harrange nodes).append (harrange types))

/-! ## Nests that fit a source -/

/-- A loop, or labels in front of one. -/
def leads : Nest → Bool
  | labelled _ bodyStart [t] => t.start == bodyStart && t.leads
  | labelled .. => false
  | loop .. => true

end Nest

/-- Where what a round of a loop does starts: at its body, but behind the brace of a block. -/
def entry (body : Span) (isBlock : Bool) : Nat := if isBlock then body.start + 1 else body.start

theorem le_entry (body : Span) (isBlock : Bool) : body.start ≤ entry body isBlock := by
  unfold entry
  cases isBlock
  · exact Nat.le_refl _
  · exact Nat.le_succ _

namespace Nest

variable (source : List Char)

mutual

/-- The spans of a nest are on boundaries, and they nest. In front of its body a label has bytes of
its own. A loop that starts what is labelled, be it behind further labels, is all of it. A loop
starts with a keyword, and its body, if that is a block, with a brace. Nothing is asked of nodes
that are neither loops nor labels. -/
def Fits : Nest → Prop
  | labelled span bodyStart inside =>
    (IsBoundary source span.start ∧ IsBoundary source span.stop) ∧
      (span.start < bodyStart ∧ bodyStart < span.stop) ∧ FitAll bodyStart span.stop inside ∧
      ∀ t ∈ inside, t.start = bodyStart → t.leads = true →
        inside.length = 1 ∧ t.stop = span.stop
  | loop span body isBlock before inside behind =>
    (IsBoundary source span.start ∧ IsBoundary source span.stop) ∧
      (IsBoundary source body.start ∧ IsBoundary source body.stop) ∧
      (isBlock = true → (Text.dropBytes body.start source).head? = some '\x7b') ∧
      entry body isBlock < body.stop ∧
      FitAll (span.start + 1) body.start before ∧ FitAll (entry body isBlock) body.stop inside ∧
      FitAll body.stop span.stop behind

/-- Nests fit and follow one another, from one byte to another. -/
def FitAll (start stop : Nat) : List Nest → Prop
  | [] => start ≤ stop
  | t :: ts => start ≤ t.start ∧ Fits t ∧ FitAll t.stop stop ts

end

mutual

/-- Fitting is decided nest by nest. -/
def decideFits : ∀ t, Decidable (Fits source t)
  | labelled _ bodyStart inside =>
    have := decideFitAll inside
    inferInstanceAs (Decidable (_ ∧ _ ∧ FitAll source bodyStart _ inside ∧ ∀ t ∈ inside, _ → _ → _))
  | loop span body isBlock before inside behind =>
    have := decideFitAll before
    have := decideFitAll inside
    have := decideFitAll behind
    inferInstanceAs (Decidable (_ ∧ _ ∧ _ ∧ _ ∧ FitAll source (span.start + 1) body.start before ∧
      FitAll source (entry body isBlock) body.stop inside ∧ FitAll source _ _ behind))

/-- Whether nests fit is decided one after the other. -/
def decideFitAll : ∀ ts start stop, Decidable (FitAll source start stop ts)
  | [], start, stop => inferInstanceAs (Decidable (start ≤ stop))
  | t :: ts, start, stop =>
    have := decideFits t
    have := decideFitAll ts
    inferInstanceAs (Decidable (start ≤ t.start ∧ Fits source t ∧ FitAll source t.stop stop ts))

end

instance (start stop : Nat) (ts : List Nest) : Decidable (FitAll source start stop ts) :=
  decideFitAll source ts start stop

variable {source} {start stop : Nat}

mutual

/-- A nest that fits is not empty. -/
theorem Fits.lt : ∀ {t : Nest}, Fits source t → t.start < t.stop
  | labelled span bodyStart inside, h => by
    obtain ⟨-, ⟨hlt, hlt'⟩, -⟩ := h
    exact Nat.lt_trans hlt hlt'
  | loop span body isBlock before inside behind, h => by
    obtain ⟨-, -, -, -, hbefore, hinside, hbehind⟩ := h
    have := hbefore.le
    have := hinside.le
    have := hbehind.le
    have := le_entry body isBlock
    show span.start < span.stop
    omega

theorem FitAll.le {start stop : Nat} :
    ∀ {ts : List Nest}, FitAll source start stop ts → start ≤ stop
  | [], h => h
  | t :: ts, h => by
    obtain ⟨hstart, ht, hts⟩ := h
    exact Nat.le_trans hstart (Nat.le_trans (Nat.le_of_lt ht.lt) hts.le)

end

theorem Fits.boundaries {t : Nest} (h : Fits source t) :
    IsBoundary source t.start ∧ IsBoundary source t.stop := by
  cases t with
  | labelled span bodyStart inside => exact h.1
  | loop span body isBlock before inside behind => exact h.1

theorem FitAll.widen {source : List Char} {start stop start' stop' : Nat} {ts : List Nest}
    (h : FitAll source start stop ts) (hstart : start' ≤ start) (hstop : stop ≤ stop') :
    FitAll source start' stop' ts := by
  induction ts generalizing start start' with
  | nil => exact Nat.le_trans hstart (Nat.le_trans h hstop)
  | cons t ts ih =>
    obtain ⟨ht, hfit, hts⟩ := h
    exact ⟨Nat.le_trans hstart ht, hfit, ih hts (Nat.le_refl _)⟩

theorem FitAll.start_le {source : List Char} {start stop : Nat} {ts : List Nest}
    (h : FitAll source start stop ts) : ∀ t ∈ ts, start ≤ t.start := by
  induction ts generalizing start with
  | nil => exact fun _ ht => nomatch ht
  | cons t ts ih =>
    obtain ⟨ht, hfit, hts⟩ := h
    refine List.forall_mem_cons.mpr ⟨ht, fun u hu => ?_⟩
    exact Nat.le_trans ht (Nat.le_trans (Nat.le_of_lt hfit.lt) (ih hts u hu))

/-- What is labelled by a label in front of a loop. -/
theorem eq_of_leads {span : Span} {bodyStart : Nat} {inside : List Nest}
    (h : (labelled span bodyStart inside).leads = true) :
    ∃ t, inside = [t] ∧ t.start = bodyStart ∧ t.leads = true := by
  match inside with
  | [] => exact nomatch h
  | [t] =>
    rw [leads, Bool.and_eq_true, beq_iff_eq] at h
    exact ⟨t, rfl, h⟩
  | t :: t' :: ts => exact nomatch h

theorem leads_of_alone (span : Span) {bodyStart : Nat} {t : Nest} {inside : List Nest}
    (hm : t ∈ inside) (halone : inside.length = 1) (hstart : t.start = bodyStart)
    (ht : t.leads = true) : (labelled span bodyStart inside).leads = true := by
  obtain ⟨u, rfl⟩ := List.length_eq_one_iff.mp halone
  rw [List.mem_singleton.mp hm] at hstart ht
  rw [leads, Bool.and_eq_true, beq_iff_eq]
  exact ⟨hstart, ht⟩

end Nest

/-! ## The outline -/

/-- Landmarks between two offsets, each behind the start of the one before. -/
structure Ascending (start stop : Nat) (ls : List Landmark) : Prop where
  sorted : ls.Pairwise fun a b => a.start < b.start
  bounds : ∀ l ∈ ls, start ≤ l.start ∧ l.start < stop

namespace Ascending

variable {start mid stop : Nat} {l : Landmark} {ls ls' : List Landmark}

theorem nil (start stop : Nat) : Ascending start stop [] := ⟨.nil, fun _ h => nomatch h⟩

theorem append (h : Ascending start mid ls) (h' : Ascending mid stop ls') (hstart : start ≤ mid)
    (hstop : mid ≤ stop) : Ascending start stop (ls ++ ls') where
  sorted := by
    refine List.pairwise_append.mpr ⟨h.sorted, h'.sorted, fun a ha b hb => ?_⟩
    exact Nat.lt_of_lt_of_le (h.bounds a ha).2 (h'.bounds b hb).1
  bounds l hl := by
    rcases List.mem_append.mp hl with hl | hl
    · have := h.bounds l hl
      omega
    · have := h'.bounds l hl
      omega

/-- A landmark in front of others. -/
theorem cons (h : Ascending mid stop ls) (hlt : l.start < mid) (hstop : mid ≤ stop) :
    Ascending l.start stop (l :: ls) where
  sorted := List.pairwise_cons.mpr ⟨fun a ha => by have := h.bounds a ha; omega, h.sorted⟩
  bounds := List.forall_mem_cons.mpr ⟨by omega, fun a ha => by have := h.bounds a ha; omega⟩

end Ascending

namespace Nest

variable {source : List Char}

mutual

/-- The landmarks of a nest that fits ascend from its start to its stop. -/
theorem Fits.ascending : ∀ {t : Nest}, Fits source t → Ascending t.start t.stop (landmarks t)
  | labelled span bodyStart inside, h => by
    obtain ⟨-, ⟨hlt, -⟩, hinside, -⟩ := h
    exact Ascending.cons (l := .labelled span bodyStart) hinside.ascending hlt hinside.le
  | loop span body isBlock before inside behind, h => by
    obtain ⟨-, -, -, -, hbefore, hinside, hbehind⟩ := h
    have hentry := le_entry body isBlock
    have hbody : Ascending body.start body.stop (landmarksAll inside) :=
      (Ascending.nil _ _).append hinside.ascending hentry hinside.le
    have hle := Nat.le_trans hentry hinside.le
    refine Ascending.cons (l := .loop span body isBlock) ?_ (Nat.lt_succ_self _) ?_
    · refine (hbefore.ascending.append hbody hbefore.le hle).append hbehind.ascending ?_ hbehind.le
      exact Nat.le_trans hbefore.le hle
    · exact Nat.le_trans hbefore.le (Nat.le_trans hle hbehind.le)

theorem FitAll.ascending {start stop : Nat} :
    ∀ {ts : List Nest}, FitAll source start stop ts → Ascending start stop (landmarksAll ts)
  | [], _ => .nil start stop
  | t :: ts, h => by
    obtain ⟨hstart, ht, hts⟩ := h
    have htop := Nat.le_trans (Nat.le_of_lt ht.lt) hts.le
    have hrest := ht.ascending.append hts.ascending (Nat.le_of_lt ht.lt) hts.le
    exact (Ascending.nil _ _).append hrest hstart htop

end

/-- If the nests of a script fit a source, the outline of the script lists their landmarks. -/
theorem outline_eq {start stop : Nat} {nodes types : List Node}
    (h : FitAll source start stop (ofNodes nodes types)) :
    outline (nodes ++ types) = landmarksAll (ofNodes nodes types) := by
  have hle : ∀ a b : Landmark, decide (b.start ≤ a.start) = false ↔ a.start < b.start := by
    intro a b
    rw [decide_eq_false_iff_not, Nat.not_le]
  refine mergeSort_eq_of_perm ?_ ?_ (landmarksAll_ofNodes nodes types).symm
    (h.ascending.sorted.imp fun hab => (hle _ _).mpr hab)
  · intro a b c hab hbc
    rw [decide_eq_true_eq] at hab hbc ⊢
    exact Nat.le_trans hab hbc
  · intro a b
    rw [Bool.or_eq_true, decide_eq_true_eq, decide_eq_true_eq]
    exact Nat.le_total _ _

end Nest

end LivePreview.Guard
