import LivePreview.Proofs.Guard.Rewriting

/-!
# Visiting is planning the rewriting

1. Labels link what is labelled to the label. From a loop the links lead to the outermost of its
   labels (`Fronted`), and the number of labels is enough fuel to follow them.
2. Visiting the landmarks of a nest plans, in some order, what rewriting puts into the nest
   (`Nest.visited`). A loop plans its own insertions (`visited_addLoop`) and its nests plan theirs.
3. Loops are numbered as they are visited, each with a number of its own (`Numbered`).
4. Instrumenting sorts what was planned. Rewriting puts in the same in the order of insertions, so
   that instrumenting is rewriting (`instrument_eq_rewriting`).
-/

namespace LivePreview.Guard

open Script (Span Node)

/-! ## Labels -/

/-- The labels lead from one start to another in `n` links. -/
inductive Fronted (labels : List (Nat × Nat)) : Nat → Nat → Nat → Prop where
  | here {start : Nat} (h : labels.lookup start = none) : Fronted labels 0 start start
  | label {n start before front : Nat} (h : labels.lookup start = some before)
      (hf : Fronted labels n before front) : Fronted labels (n + 1) start front

namespace Fronted

variable {labels : List (Nat × Nat)} {n start front : Nat}

/-- With fuel for the links the outermost label is found. -/
theorem outermost_eq (h : Fronted labels n start front) {fuel : Nat} (hn : n ≤ fuel) :
    Plan.outermost labels fuel start = front := by
  induction h generalizing fuel with
  | here h =>
    cases fuel with
    | zero => rfl
    | succ fuel => rw [Plan.outermost, h]
  | label h hf ih =>
    cases fuel with
    | zero => exact absurd hn (Nat.not_succ_le_zero _)
    | succ fuel =>
      rw [Plan.outermost, h]
      exact ih (Nat.le_of_succ_le_succ hn)

/-- What is not labelled is in front of itself. -/
theorem of_forall_lt (h : ∀ l ∈ labels, l.1 < start) : Fronted labels 0 start start := by
  refine .here (List.lookup_eq_none_iff.mpr fun l hl => ?_)
  rw [bne_iff_ne]
  exact Nat.ne_of_gt (h l hl)

/-- A label for what comes later changes nothing. -/
theorem cons (h : Fronted labels n start front) (hl : ∀ l ∈ labels, l.2 < l.1) {key before : Nat}
    (hlt : start < key) : Fronted ((key, before) :: labels) n start front := by
  have hskip : ∀ start, start < key →
      ((key, before) :: labels).lookup start = labels.lookup start := by
    intro start hlt
    rw [List.lookup_cons, beq_eq_false_iff_ne.mpr (Nat.ne_of_lt hlt)]
  induction h with
  | here h => exact .here ((hskip _ hlt).trans h)
  | label h hf ih =>
    refine .label ((hskip _ hlt).trans h) (ih ?_)
    obtain ⟨ls, ls', hlabels, -⟩ := List.lookup_eq_some_iff.mp h
    have hmem := hl _ (hlabels ▸ List.mem_append_right ls List.mem_cons_self)
    exact Nat.lt_trans hmem hlt

end Fronted

/-! ## Plans -/

/-- Labels were noted for what starts before an offset, and start before it themselves. -/
def Plan.Below (plan : Plan) (offset : Nat) : Prop := ∀ l ∈ plan.labels, l.1 < offset ∧ l.2 < l.1

theorem Plan.Below.mono {plan : Plan} {offset offset' : Nat} (hb : plan.Below offset)
    (hle : offset ≤ offset') : plan.Below offset' := fun l hl =>
  ⟨Nat.lt_of_lt_of_le (hb l hl).1 hle, (hb l hl).2⟩

/-- Between two plans `es` were planned for `n` loops, and labels were noted for what starts before
`stop`. -/
structure Visited (plan plan' : Plan) (stop n : Nat) (es : List Insertion) : Prop where
  insertions : plan'.insertions.Perm (es ++ plan.insertions)
  next : plan'.next = plan.next + n
  labels : ∀ l ∈ plan'.labels, l ∈ plan.labels ∨ l.1 < stop ∧ l.2 < l.1

namespace Visited

variable {plan plan' plan'' : Plan} {stop stop' n n' : Nat} {es es' : List Insertion}

theorem refl (plan : Plan) (stop : Nat) : Visited plan plan stop 0 [] :=
  ⟨.refl _, rfl, fun _ hl => .inl hl⟩

theorem trans (h : Visited plan plan' stop n es) (h' : Visited plan' plan'' stop' n' es')
    (hle : stop ≤ stop') : Visited plan plan'' stop' (n + n') (es ++ es') where
  insertions := by
    refine h'.insertions.trans ((h.insertions.append_left es').trans ?_)
    rw [List.append_assoc]
    exact List.perm_append_comm_assoc _ _ _
  next := by rw [h'.next, h.next, Nat.add_assoc]
  labels l hl := by
    rcases h'.labels l hl with hl | hl
    · rcases h.labels l hl with hl | hl
      · exact .inl hl
      · exact .inr ⟨Nat.lt_of_lt_of_le hl.1 hle, hl.2⟩
    · exact .inr hl

theorem perm (h : Visited plan plan' stop n es) (hp : es.Perm es') :
    Visited plan plan' stop n es' :=
  ⟨h.insertions.trans (hp.append_right _), h.next, h.labels⟩

/-- The labels behind a visit are for what starts before its end. -/
theorem below (h : Visited plan plan' stop n es) {offset : Nat} (hb : plan.Below offset)
    (hle : offset ≤ stop) : plan'.Below stop := by
  intro l hl
  rcases h.labels l hl with hl | hl
  · exact ⟨Nat.lt_of_lt_of_le (hb l hl).1 hle, (hb l hl).2⟩
  · exact hl

end Visited

/-! ## Visiting nests -/

namespace Nest

variable (guard : LoopGuard) (source : List Char)

/-- Visiting a nest plans what is put into it. The opening of its first loop is put in where the
labels noted before lead to. -/
def IsVisited (t : Nest) : Prop :=
  ∀ (plan : Plan) (front n : Nat), plan.Below (t.start + 1) →
    (t.leads = true → Fronted plan.labels n t.start front ∧ n ≤ plan.labels.length) →
    Visited plan ((landmarks t).foldl (Plan.visit guard source) plan) t.stop t.loops
      (openingEdit plan.next front false t ++ edits guard source plan.next t)

variable {guard source} {plan : Plan} {start stop offset : Nat}

/-- Visiting a label notes it. -/
theorem visited_labelled {span : Span} {bodyStart : Nat} (hlt : span.start < bodyStart)
    (hlt' : bodyStart < span.stop) :
    Visited plan (plan.visit guard source (.labelled span bodyStart)) span.stop 0 [] where
  insertions := .refl _
  next := rfl
  labels l hl := by
    rcases List.mem_cons.mp hl with rfl | hl
    · exact .inr ⟨hlt', hlt⟩
    · exact .inl hl

/-- Visiting a loop plans its wrapper and what is put around its body. -/
theorem visited_loop (span body : Span) (isBlock : Bool) {front n : Nat}
    (hf : Fronted plan.labels n span.start front) (hn : n ≤ plan.labels.length) (stop : Nat) :
    Visited plan (plan.visit guard source (.loop span body isBlock)) stop 1
      (⟨front, .open, plan.next, 0, opening plan.next⟩ ::
        ⟨span.stop, .close, plan.next, 1, ['\x7d']⟩ ::
        entryEdit guard source plan.next span body isBlock :: exitEdit plan.next body isBlock) := by
  refine ⟨?_, rfl, fun _ hl => .inl hl⟩
  dsimp only [Plan.visit, Plan.addLoop]
  rw [hf.outermost_eq hn, ← List.reverse_append]
  refine ((List.reverse_perm _).append_right _).trans (.of_eq ?_)
  cases isBlock <;> rfl

/-- What a loop plans, in the order of the text. -/
theorem loop_perm {α : Type} [DecidableEq α] (opening closing entry : α)
    (exit before inside behind : List α) :
    ((opening :: closing :: entry :: exit) ++ before ++ inside ++ behind).Perm
      (opening :: (before ++ (entry :: inside ++ exit) ++ behind ++ [closing])) := by
  refine List.perm_iff_count.mpr fun a => ?_
  simp only [List.count_cons, List.count_append, List.count_nil]
  omega

/-- Visiting nests plans what is put into them, if no label was noted for a loop among them. -/
theorem FitAll.visited {ts : List Nest} (h : FitAll source start stop ts) (hb : plan.Below offset)
    (hts : ∀ t ∈ ts, offset ≤ t.start + 1 ∧ (t.leads = true → offset ≤ t.start))
    (ih : ∀ t ∈ ts, Fits source t → IsVisited guard source t) :
    Visited plan ((landmarksAll ts).foldl (Plan.visit guard source) plan) stop (loopsAll ts)
      (editsAll guard source plan.next false ts) := by
  induction ts generalizing start offset plan with
  | nil => exact .refl plan stop
  | cons t ts iht =>
    obtain ⟨-, hfit, hrest⟩ := h
    obtain ⟨hle, hleads⟩ := hts t List.mem_cons_self
    have hfront : t.leads = true →
        Fronted plan.labels 0 t.start t.start ∧ 0 ≤ plan.labels.length := fun hl =>
      ⟨.of_forall_lt fun l hm => Nat.lt_of_lt_of_le (hb l hm).1 (hleads hl), Nat.zero_le _⟩
    have hnest := ih t List.mem_cons_self hfit plan t.start 0 (hb.mono hle) hfront
    have hbelow := hnest.below hb (Nat.le_trans hle hfit.lt)
    have hnext := iht hrest hbelow (fun u hu => ⟨Nat.le_succ_of_le (hrest.start_le u hu), fun _ =>
      hrest.start_le u hu⟩) fun u hu => ih u (List.mem_cons_of_mem t hu)
    rw [hnest.next] at hnext
    rw [landmarksAll, List.foldl_append]
    exact hnest.trans hnext hrest.le

/-- Visiting nests behind all that was labelled plans what is put into them. -/
theorem FitAll.visited_of_below {ts : List Nest} (h : FitAll source start stop ts)
    (hb : plan.Below start) (ih : ∀ t ∈ ts, Fits source t → IsVisited guard source t) :
    Visited plan ((landmarksAll ts).foldl (Plan.visit guard source) plan) stop (loopsAll ts)
      (editsAll guard source plan.next false ts) :=
  h.visited hb (fun t ht => ⟨Nat.le_succ_of_le (h.start_le t ht), fun _ => h.start_le t ht⟩) ih

/-- Visiting a nest plans what is put into it. -/
theorem Fits.visited {t : Nest} (h : Fits source t) : IsVisited guard source t := by
  induction t using nesting_induction with
  | labelled span bodyStart inside ih =>
    obtain ⟨-, ⟨hlt, hlt'⟩, hinside, halone⟩ := h
    intro plan front n hb hfront
    have hlabel : Visited plan (plan.visit guard source (.labelled span bodyStart)) span.stop 0
        [] := visited_labelled hlt hlt'
    have hbelow : (plan.visit guard source (.labelled span bodyStart)).Below (bodyStart + 1) :=
      List.forall_mem_cons.mpr ⟨⟨Nat.lt_succ_self _, hlt⟩,
        hb.mono (Nat.succ_le_succ (Nat.le_of_lt hlt))⟩
    rw [landmarks, List.foldl_cons]
    cases hl : (labelled span bodyStart inside).leads with
    | true =>
      obtain ⟨t, rfl, hstart, ht⟩ := eq_of_leads hl
      obtain ⟨-, hfit, -⟩ := hinside
      obtain ⟨hf, hn⟩ := hfront hl
      have hlink : Fronted ((bodyStart, span.start) :: plan.labels) (n + 1) bodyStart front :=
        .label List.lookup_cons_self (hf.cons (fun l hm => (hb l hm).2) hlt)
      have hstop := (halone t List.mem_cons_self hstart ht).2
      have hnest := ih t List.mem_cons_self hfit
        (plan.visit guard source (.labelled span bodyStart)) front (n + 1)
        (by rw [hstart]; exact hbelow) fun _ => ⟨by rw [hstart]; exact hlink, Nat.succ_le_succ hn⟩
      have hall := hlabel.trans hnest (Nat.le_of_eq hstop.symm)
      rw [hstop, Nat.zero_add] at hall
      rw [landmarksAll, landmarksAll, List.append_nil, edits, hl, editsAll_singleton, openingEdit,
        hl]
      rw [openingEdit, ht] at hall
      exact hall
    | false =>
      have hnests := hinside.visited hbelow (fun t ht => ⟨?_, fun hleads => ?_⟩) ih
      · have hall := hlabel.trans hnests (Nat.le_refl _)
        rw [Nat.zero_add] at hall
        rw [edits, hl, openingEdit, hl]
        exact hall
      · exact Nat.succ_le_succ (hinside.start_le t ht)
      · refine Nat.lt_of_le_of_ne (hinside.start_le t ht) fun hstart => ?_
        have hlead := leads_of_alone span ht (halone t ht hstart.symm hleads).1 hstart.symm hleads
        exact Bool.false_ne_true (hl.symm.trans hlead)
  | loop span body isBlock before inside behind ihbefore ihinside ihbehind =>
    obtain ⟨-, -, -, hlt, hbefore, hinside, hbehind⟩ := h
    intro plan front n hb hfront
    obtain ⟨hf, hn⟩ := hfront rfl
    have hentry := le_entry body isBlock
    have hbody := Nat.le_trans hentry hinside.le
    have hloop : Visited plan (plan.visit guard source (.loop span body isBlock)) body.start 1 _ :=
      visited_loop span body isBlock hf hn body.start
    have hb' : (plan.visit guard source (.loop span body isBlock)).Below (span.start + 1) := hb
    have hbefore' := hbefore.visited_of_below hb' ihbefore
    have hb'' := hbefore'.below hb' hbefore.le
    have hinside' := hinside.visited_of_below (hb''.mono hentry) ihinside
    have hbehind' := hbehind.visited_of_below (hinside'.below hb'' hbody) ihbehind
    rw [hinside'.next, hbefore'.next] at hbehind'
    rw [hbefore'.next] at hinside'
    rw [landmarks, List.foldl_cons, List.foldl_append, List.foldl_append]
    have hall := ((hloop.trans hbefore' (Nat.le_refl _)).trans hinside' hbody).trans hbehind'
      hbehind.le
    exact hall.perm (loop_perm _ _ _ _ _ _ _)

end Nest

/-! ## Numbers -/

/-- The numbers of the loops that have been planned, in the order of their visits. -/
def Plan.numbers (plan : Plan) : List Int :=
  (plan.insertions.reverse.filter fun i => i.edge == .open && i.part == 0).map Insertion.seq

/-- The loops are numbered from zero on. -/
def Plan.Numbered (plan : Plan) : Prop :=
  plan.numbers = (List.range plan.next).map Int.ofNat

theorem Plan.Numbered.visit {plan : Plan} (h : plan.Numbered) (guard : LoopGuard)
    (source : List Char) (l : Landmark) : (plan.visit guard source l).Numbered := by
  cases l with
  | labelled span bodyStart => exact h
  | loop span body isBlock =>
    have hnumbers : (plan.addLoop guard source span body isBlock).numbers =
        plan.numbers ++ [Int.ofNat plan.next] := by
      unfold Plan.numbers Plan.addLoop
      cases isBlock <;> simp
    unfold Plan.Numbered at h ⊢
    rw [show (plan.visit guard source (.loop span body isBlock)).numbers = _ from hnumbers, h]
    show _ = (List.range (plan.next + 1)).map Int.ofNat
    rw [List.range_succ, List.map_append, List.map_singleton]

theorem Plan.Numbered.visitAll {plan : Plan} (h : plan.Numbered) (guard : LoopGuard)
    (source : List Char) (ls : List Landmark) :
    (ls.foldl (Plan.visit guard source) plan).Numbered := by
  induction ls generalizing plan with
  | nil => exact h
  | cons l ls ih => exact ih (h.visit guard source l)

/-! ## The main theorem -/

/-- The nests of a script. -/
def Nest.ofProgram (program : Script.Program) : List Nest := ofNodes program.body program.types

/-- The spans of the loops and labels of a script fit a source. -/
def Nest.ProgramFits (source : List Char) (program : Script.Program) : Prop :=
  FitAll source 0 (Text.byteLength source) (ofProgram program)

/-- A source with the loops of its script guarded, nest by nest. -/
def rewriting (guard : LoopGuard) (source : List Char) (program : Script.Program) : List Char :=
  Nest.weave guard source 0 false 0 (Text.byteLength source) (Nest.ofProgram program)

/-- **Instrumenting is rewriting.** If the spans of the loops and labels of a script fit a source,
the insertions that are planned along the outline, sorted and spliced, make the text that guarding
the loops nest by nest makes. The numbers of the loops are those of their visits, from zero on. -/
theorem instrument_eq_rewriting (guard : LoopGuard) (source : List Char)
    (program : Script.Program) (h : Nest.ProgramFits source program) :
    guard.instrument source (outline (program.body ++ program.types)) =
        rewriting guard source program ∧
      ((outline (program.body ++ program.types)).foldl (Plan.visit guard source) .empty).numbers =
        (List.range (Nest.loopsAll (Nest.ofProgram program))).map Int.ofNat := by
  have hempty : Plan.empty.Below 0 := fun _ hl => nomatch hl
  have hvisit : Visited .empty ((Nest.landmarksAll (Nest.ofProgram program)).foldl
      (Plan.visit guard source) .empty) (Text.byteLength source)
      (Nest.loopsAll (Nest.ofProgram program)) (Nest.editsAll guard source 0 false _) :=
    h.visited_of_below hempty fun t _ hfit => hfit.visited
  rw [Nest.outline_eq h]
  refine ⟨?_, ?_⟩
  · have hwithin : Within 0 (Text.byteLength source) (2 * (0 : Nat)) (2 * (0 : Nat))
        (Nest.editsAll guard source 0 false (Nest.ofProgram program)) :=
      h.within 0 fun t _ hfit => hfit.within
    have hwrites : Writes source 0 (Text.byteLength source)
        (Nest.editsAll guard source 0 false (Nest.ofProgram program))
        (rewriting guard source program) :=
      h.writes (.zero source) (.byteLength source) false 0 fun t _ hfit => hfit.writes
    have hperm := (List.reverse_perm _).trans hvisit.insertions
    have hemit := hwrites.emits [] fun _ he => nomatch he
    rw [Text.dropBytes_zero, Text.dropBytes_byteLength, List.append_nil, emit,
      List.append_nil] at hemit
    rw [show Plan.empty.insertions = [] from rfl, List.append_nil] at hperm
    exact (splice_eq_emit hperm hwithin.sorted).trans hemit
  · have hzero : Plan.empty.Numbered := rfl
    have hnumbered := hzero.visitAll guard source (Nest.landmarksAll (Nest.ofProgram program))
    rw [Plan.Numbered, hvisit.next] at hnumbered
    rw [← Nat.zero_add (Nest.loopsAll _)]
    exact hnumbered

/-- A loop behind two labels whose body is a loop, and a loop with another in its condition. -/
theorem instrument_eq_rewriting_nested :
    let guard : LoopGuard := .ofMilliseconds 100
    let source := "a:b:while(p)for(;;)\x7b\x7d\ndo r();while(()=>\x7bfor(k in o)k\x7d)".toList
    let labelled : Node := .mk ⟨0, 21⟩ (.labelled "a" (.mk ⟨2, 21⟩ (.labelled "b" (.mk ⟨4, 21⟩
      (.whileLoop (.mk ⟨10, 11⟩ (.name "p"))
        (.mk ⟨12, 21⟩ (.forLoop none none none (.mk ⟨19, 21⟩ (.block [])))))))))
    let inner : Node := .mk ⟨40, 52⟩ (.forInLoop (.mk ⟨44, 45⟩ (.name "k"))
      (.mk ⟨49, 50⟩ (.name "o")) (.mk ⟨51, 52⟩ (.expression (.mk ⟨51, 52⟩ (.name "k")))))
    let outer : Node := .mk ⟨22, 54⟩ (.doLoop
      (.mk ⟨25, 29⟩ (.expression (.mk ⟨25, 28⟩ (.call (.mk ⟨25, 26⟩ (.name "r")) [] false false))))
      (.mk ⟨35, 53⟩ (.arrow .plain true [] (.mk ⟨39, 53⟩ (.functionBody [inner])))))
    let program : Script.Program := ⟨none, [labelled, outer], [], [], 54⟩
    Nest.ProgramFits source program ∧
      guard.instrument source (outline (program.body ++ program.types)) =
        opening 0 ++ "a:b:while(p)".toList ++ '\x7b' :: guard.check 0 1 ++
          (opening 1 ++ "for(;;)".toList ++ '\x7b' :: guard.check 1 1 ++ ['\x7d'] ++ ['\x7d']) ++
          ['\x7d'] ++ ['\x7d'] ++ ['\n'] ++
        (opening 2 ++ "do ".toList ++ '\x7b' :: guard.check 2 2 ++ "r();".toList ++ ['\x7d'] ++
          "while(()=>\x7b".toList ++
          (opening 3 ++ "for(k in o)".toList ++ '\x7b' :: guard.check 3 2 ++ ['k'] ++ ['\x7d'] ++
            ['\x7d']) ++
          ['\x7d', ')'] ++ ['\x7d']) := by
  intro guard source labelled inner outer program
  have hf : Nest.FitAll source 0 (Text.byteLength source) (Nest.ofProgram program) := by decide
  refine ⟨hf, (instrument_eq_rewriting guard source program hf).1.trans ?_⟩
  show Nest.weave guard source 0 false 0 (Text.byteLength source) (Nest.ofProgram program) = _
  decide +kernel

end LivePreview.Guard
