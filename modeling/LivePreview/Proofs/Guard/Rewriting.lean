import LivePreview.Guard.Plan
import LivePreview.Proofs.Guard.Nest

/-!
# Guarded loops, nest by nest

1. `Nest.rewrite` guards the loops of a nest from the inside of its text: it goes down the nest and
   numbers its loops on the way. `weave` puts the rewritten nests of a stretch of source in their
   places, each behind its opening.
2. `Nest.edits` lists what this puts in, in the order of the text. Emitting the list is rewriting
   (`Fits.writes`), and the list is in the order of insertions (`Fits.within`).
-/

namespace LivePreview.Guard

open Script (Span)
open Text (IsBoundary slice)

namespace Nest

mutual

/-- The number of loops of a nest. -/
def loops : Nest → Nat
  | labelled _ _ inside => loopsAll inside
  | loop _ _ _ before inside behind => 1 + loopsAll before + loopsAll inside + loopsAll behind

/-- The number of loops of nests. -/
def loopsAll : List Nest → Nat
  | [] => 0
  | t :: ts => loops t + loopsAll ts

end

section

variable (guard : LoopGuard) (source : List Char)

mutual

/-- The text of a nest with its loops guarded and numbered from `k` on. The opening of loop `k`
stands in front, before the labels of the loop. -/
def rewrite (k : Nat) : Nest → List Char
  | labelled span bodyStart inside =>
    weave k (labelled span bodyStart inside).leads span.start span.stop inside
  | loop span body isBlock before inside behind =>
    weave (k + 1) false span.start body.start before ++
      ('\x7b' :: guard.check k (Text.lineOf source span.start) ++
        weave (k + 1 + loopsAll before) false (entry body isBlock) body.stop inside ++
        (if isBlock then [] else ['\x7d'])) ++
      weave (k + 1 + loopsAll before + loopsAll inside) false body.stop span.stop behind ++
      ['\x7d']

/-- A stretch of source with its nests rewritten, each behind the opening of its first loop if there
is one that is not open yet. -/
def weave (k : Nat) (isOpen : Bool) (start stop : Nat) : List Nest → List Char
  | [] => slice source start stop
  | t :: ts =>
    slice source start t.start ++ (if t.leads && !isOpen then opening k else []) ++ rewrite k t ++
      weave (k + t.loops) isOpen t.stop stop ts

end

/-- The opening of the first loop of a nest, put in at an offset. -/
def openingEdit (k offset : Nat) (isOpen : Bool) (t : Nest) : List Insertion :=
  if t.leads && !isOpen then [⟨offset, .open, k, 0, opening k⟩] else []

/-- The check of a loop, and a brace before it if the body has none. -/
def entryEdit (k : Nat) (span body : Span) (isBlock : Bool) : Insertion :=
  ⟨entry body isBlock, .open, k, 1,
    (if isBlock then [] else ['\x7b']) ++ guard.check k (Text.lineOf source span.start)⟩

/-- The brace behind the body of a loop if the body has none. -/
def exitEdit (k : Nat) (body : Span) (isBlock : Bool) : List Insertion :=
  if isBlock then [] else [⟨body.stop, .close, k, 0, ['\x7d']⟩]

mutual

/-- What rewriting puts into a nest, in the order of the text. -/
def edits (k : Nat) : Nest → List Insertion
  | labelled span bodyStart inside => editsAll k (labelled span bodyStart inside).leads inside
  | loop span body isBlock before inside behind =>
    editsAll (k + 1) false before ++
      (entryEdit guard source k span body isBlock ::
        editsAll (k + 1 + loopsAll before) false inside ++ exitEdit k body isBlock) ++
      editsAll (k + 1 + loopsAll before + loopsAll inside) false behind ++
      [⟨span.stop, .close, k, 1, ['\x7d']⟩]

/-- What weaving puts into a stretch of source. -/
def editsAll (k : Nat) (isOpen : Bool) : List Nest → List Insertion
  | [] => []
  | t :: ts => openingEdit k t.start isOpen t ++ edits k t ++ editsAll (k + t.loops) isOpen ts

end

end

/-- Behind a label in front of a loop its opening is not repeated. -/
theorem editsAll_singleton (guard : LoopGuard) (source : List Char) (k : Nat) (t : Nest) :
    editsAll guard source k true [t] = edits guard source k t := by
  rw [editsAll, editsAll, openingEdit, Bool.not_true, Bool.and_false, List.append_nil]
  rfl

end Nest

/-! ## Emitting is rewriting -/

/-- Emitting insertions writes a text in place of a stretch of source. -/
structure Writes (source : List Char) (start stop : Nat) (es : List Insertion) (out : List Char) :
    Prop where
  le : start ≤ stop
  offset : ∀ e ∈ es, start ≤ e.offset
  emits : ∀ rest : List Insertion, (∀ e ∈ rest, stop ≤ e.offset) →
    emit start (Text.dropBytes start source) (es ++ rest) =
      out ++ emit stop (Text.dropBytes stop source) rest

namespace Writes

variable {source : List Char} {start mid stop : Nat} {es es' : List Insertion}
  {out out' : List Char}

/-- A stretch without insertions is written as it is. -/
theorem slice (hstart : IsBoundary source start) (hstop : IsBoundary source stop)
    (hle : start ≤ stop) : Writes source start stop [] (slice source start stop) where
  le := hle
  offset _ h := nomatch h
  emits rest hrest := by
    have hdrop : Text.dropBytes stop source =
        Text.dropBytes (stop - start) (Text.dropBytes start source) := by
      rw [← hstart.dropBytes_add, Nat.add_sub_cancel' hle]
    have hcut := hstart.sub hstop hle
    rw [List.nil_append, Text.slice, hdrop]
    cases rest with
    | nil =>
      unfold emit
      exact (Text.takeBytes_append_dropBytes _ _).symm
    | cons e rest =>
      have hoff := hrest e List.mem_cons_self
      have hsplit : e.offset - start = (stop - start) + (e.offset - stop) := by omega
      unfold emit
      rw [hsplit, hcut.takeBytes_add, hcut.dropBytes_add]
      simp only [List.append_assoc]

theorem nil (source : List Char) (start : Nat) : Writes source start start [] [] :=
  ⟨Nat.le_refl _, fun _ h => (nomatch h), fun _ _ => rfl⟩

/-- An insertion writes its text. -/
theorem insertion (e : Insertion) (ho : e.offset = start) :
    Writes source start start [e] e.text where
  le := Nat.le_refl _
  offset := List.forall_mem_cons.mpr ⟨Nat.le_of_eq ho.symm, fun _ h => nomatch h⟩
  emits rest _ := by
    rw [List.singleton_append, emit, ho, Nat.sub_self, Text.takeBytes_zero, Text.dropBytes_zero,
      List.nil_append]

/-- Stretches are written one after the other. -/
theorem append (h : Writes source start mid es out) (h' : Writes source mid stop es' out') :
    Writes source start stop (es ++ es') (out ++ out') where
  le := Nat.le_trans h.le h'.le
  offset e he := (List.mem_append.mp he).elim (h.offset e) fun he' =>
    Nat.le_trans h.le (h'.offset e he')
  emits rest hrest := by
    rw [List.append_assoc, h.emits, h'.emits rest hrest, List.append_assoc]
    intro e he
    rcases List.mem_append.mp he with he | he
    · exact h'.offset e he
    · exact Nat.le_trans h'.le (hrest e he)

end Writes

namespace Nest

variable {guard : LoopGuard} {source : List Char}

theorem openingEdit_writes (k : Nat) (isOpen : Bool) (t : Nest) :
    Writes source t.start t.start (openingEdit k t.start isOpen t)
      (if t.leads && !isOpen then opening k else []) := by
  unfold openingEdit
  cases t.leads && !isOpen with
  | false => exact .nil source t.start
  | true => exact .insertion ⟨t.start, .open, k, 0, opening k⟩ rfl

/-- A stretch is woven if the nests in it are rewritten. -/
theorem FitAll.writes {start stop : Nat} {ts : List Nest} (h : FitAll source start stop ts)
    (hstart : IsBoundary source start) (hstop : IsBoundary source stop) (isOpen : Bool) (k : Nat)
    (ih : ∀ t ∈ ts, Fits source t → ∀ k,
      Writes source t.start t.stop (edits guard source k t) (rewrite guard source k t)) :
    Writes source start stop (editsAll guard source k isOpen ts)
      (weave guard source k isOpen start stop ts) := by
  induction ts generalizing start k with
  | nil => exact .slice hstart hstop h
  | cons t ts iht =>
    obtain ⟨hle, hfit, hts⟩ := h
    obtain ⟨hb, hb'⟩ := hfit.boundaries
    have hfront := (Writes.slice hstart hb hle).append (openingEdit_writes k isOpen t)
    have hnest := ih t List.mem_cons_self hfit k
    have hrest := iht hts hb' (k + t.loops) fun u hu => ih u (List.mem_cons_of_mem t hu)
    unfold editsAll weave
    exact (hfront.append hnest).append hrest

/-- In front of the check of a loop stands the brace of its body. -/
theorem entryEdit_writes (guard : LoopGuard) (span : Span) {body : Span} {isBlock : Bool} (k : Nat)
    (hb : IsBoundary source body.start)
    (hbrace : isBlock = true → (Text.dropBytes body.start source).head? = some '\x7b') :
    IsBoundary source (entry body isBlock) ∧
    Writes source body.start (entry body isBlock) [entryEdit guard source k span body isBlock]
      ('\x7b' :: guard.check k (Text.lineOf source span.start)) := by
  cases isBlock with
  | false => exact ⟨hb, .insertion (entryEdit guard source k span body false) rfl⟩
  | true =>
    obtain ⟨cs, hcs⟩ := List.head?_eq_some_iff.mp (hbrace rfl)
    have hone : Text.takeBytes 1 (Text.dropBytes body.start source) = ['\x7b'] := by
      rw [hcs, Text.takeBytes]
      exact congrArg _ (Text.takeBytes_zero cs)
    have hentry : IsBoundary source (body.start + 1) := by
      refine hb.add ?_
      unfold IsBoundary
      rw [hone]
      rfl
    refine ⟨hentry, ?_⟩
    have hslice : slice source body.start (body.start + 1) = ['\x7b'] := by
      rw [slice, Nat.add_sub_cancel_left, hone]
    have hw := (Writes.slice hb hentry (Nat.le_succ _)).append
      (.insertion (entryEdit guard source k span body true) rfl)
    rw [hslice] at hw
    exact hw

theorem exitEdit_writes (k : Nat) (body : Span) (isBlock : Bool) :
    Writes source body.stop body.stop (exitEdit k body isBlock)
      (if isBlock then [] else ['\x7d']) := by
  cases isBlock with
  | false => exact .insertion ⟨body.stop, .close, k, 0, ['\x7d']⟩ rfl
  | true => exact .nil source body.stop

/-- Emitting what is put into a nest is rewriting it. -/
theorem Fits.writes {t : Nest} (h : Fits source t) (k : Nat) :
    Writes source t.start t.stop (edits guard source k t) (rewrite guard source k t) := by
  induction t using nesting_induction generalizing k with
  | labelled span bodyStart inside ih =>
    obtain ⟨⟨hb, hb'⟩, ⟨hlt, -⟩, hinside, -⟩ := h
    unfold edits rewrite
    exact (hinside.widen (Nat.le_of_lt hlt) (Nat.le_refl _)).writes hb hb' _ k ih
  | loop span body isBlock before inside behind ihbefore ihinside ihbehind =>
    obtain ⟨⟨hb, hb'⟩, ⟨hbody, hbody'⟩, hbrace, -, hbefore, hinside, hbehind⟩ := h
    obtain ⟨hentry, hcheck⟩ := entryEdit_writes guard span k hbody hbrace
    have hfront := (hbefore.widen (Nat.le_succ _) (Nat.le_refl _)).writes hb hbody false (k + 1)
      ihbefore
    have hround := hinside.writes hentry hbody' false (k + 1 + loopsAll before) ihinside
    have hback := hbehind.writes hbody' hb' false (k + 1 + loopsAll before + loopsAll inside)
      ihbehind
    have hclose : Writes source span.stop span.stop [⟨span.stop, .close, k, 1, ['\x7d']⟩]
        ['\x7d'] := .insertion ⟨span.stop, .close, k, 1, ['\x7d']⟩ rfl
    unfold edits rewrite
    exact ((hfront.append ((hcheck.append hround).append (exitEdit_writes k body isBlock))).append
      hback).append hclose

/-! ## Rewriting keeps the order of insertions -/

/-- An opening goes in front of what is put into the nest. -/
theorem openingEdit_within {k : Nat} {t : Nest} (h : Fits source t)
    (hw : Within t.start t.stop (2 * k + t.leads.toNat) (2 * k) (edits guard source k t)) :
    Within t.start t.stop (2 * k) (2 * k)
      (openingEdit k t.start false t ++ edits guard source k t) := by
  unfold openingEdit
  rw [Bool.not_false, Bool.and_true]
  cases hl : t.leads with
  | false =>
    rw [hl] at hw
    exact hw.mono (Nat.le_refl _) (Nat.le_refl _) (Int.le_add_of_nonneg_right (Int.le_refl 0))
      (Int.le_refl _)
  | true =>
    rw [hl] at hw
    exact hw.opened h.lt rfl rfl (Int.add_zero _) (Nat.zero_le _)

/-- What is put into the nests of a stretch is in order. -/
theorem FitAll.within {start stop : Nat} {ts : List Nest} (h : FitAll source start stop ts)
    (k : Nat) (ih : ∀ t ∈ ts, Fits source t → ∀ k : Nat,
      Within t.start t.stop (2 * k + t.leads.toNat) (2 * k) (edits guard source k t)) :
    Within start stop (2 * k) (2 * k) (editsAll guard source k false ts) := by
  induction ts generalizing start k with
  | nil => exact .nil start stop (2 * k) (2 * k)
  | cons t ts iht =>
    obtain ⟨hle, hfit, hts⟩ := h
    have hnest := openingEdit_within hfit (ih t List.mem_cons_self hfit k)
    have hrest := iht hts (k + t.loops) fun u hu => ih u (List.mem_cons_of_mem t hu)
    unfold editsAll
    refine (hnest.mono hle (Nat.le_refl _) (Int.le_refl _) (Int.le_refl _)).append
      (hrest.mono (Nat.le_refl _) (Nat.le_refl _) ?_ ?_)
      (Nat.le_trans hle (Nat.le_of_lt hfit.lt)) hts.le
    all_goals omega

/-- What is put around the rounds of a loop is of the level behind that of its wrapper. -/
theorem body_within {k : Nat} {span body : Span} {isBlock : Bool} {es : List Insertion}
    (hlt : entry body isBlock < body.stop)
    (h : Within (entry body isBlock) body.stop (2 * k + 2) (2 * k + 2) es) :
    Within body.start body.stop (2 * k + 1) (2 * k + 1)
      (entryEdit guard source k span body isBlock :: es ++ exitEdit k body isBlock) := by
  have hopened : Within (entry body isBlock) body.stop (2 * k + 1) (2 * k + 2)
      (entryEdit guard source k span body isBlock :: es) :=
    h.opened hlt rfl rfl rfl (Nat.le_refl _)
  refine Within.mono ?_ (le_entry body isBlock) (Nat.le_refl _) (Int.le_refl _) (Int.le_refl _)
  cases isBlock with
  | false =>
    exact hopened.closed hlt rfl rfl (by simp only [Insertion.level]; omega) (Nat.zero_le _)
  | true =>
    rw [exitEdit, if_pos rfl, List.append_nil]
    exact hopened.mono (Nat.le_refl _) (Nat.le_refl _) (Int.le_refl _) (by omega)

/-- What is put into a nest is in order, and leaves room for its opening. -/
theorem Fits.within {t : Nest} (h : Fits source t) (k : Nat) :
    Within t.start t.stop (2 * k + t.leads.toNat) (2 * k) (edits guard source k t) := by
  induction t using nesting_induction generalizing k with
  | labelled span bodyStart inside ih =>
    obtain ⟨-, ⟨hlt, -⟩, hinside, -⟩ := h
    unfold edits
    cases hl : (labelled span bodyStart inside).leads with
    | false =>
      refine (hinside.within k ih).mono (Nat.le_of_lt hlt) (Nat.le_refl _) ?_ (Int.le_refl _)
      exact Int.le_of_eq (Int.add_zero _)
    | true =>
      obtain ⟨t, rfl, -, ht⟩ := eq_of_leads hl
      obtain ⟨hle, hfit, hle'⟩ := hinside
      have hw := ih t (List.mem_singleton.mpr rfl) hfit k
      rw [ht] at hw
      rw [editsAll_singleton]
      exact hw.mono (Nat.le_trans (Nat.le_of_lt hlt) hle) hle' (Int.le_refl _) (Int.le_refl _)
  | loop span body isBlock before inside behind ihbefore ihinside ihbehind =>
    obtain ⟨-, -, -, hlt, hbefore, hinside, hbehind⟩ := h
    have hfront : Within (span.start + 1) body.start (2 * k + 1) (2 * k + 1)
        (editsAll guard source (k + 1) false before) :=
      (hbefore.within (k + 1) ihbefore).mono (Nat.le_refl _) (Nat.le_refl _) (by omega) (by omega)
    have hround := hinside.within (k + 1 + loopsAll before) ihinside
    have hbody : Within body.start body.stop (2 * k + 1) (2 * k + 1)
        (entryEdit guard source k span body isBlock ::
          editsAll guard source (k + 1 + loopsAll before) false inside ++
          exitEdit k body isBlock) :=
      body_within hlt (hround.mono (Nat.le_refl _) (Nat.le_refl _) (by omega) (by omega))
    have hback : Within body.stop span.stop (2 * k + 1) (2 * k + 1)
        (editsAll guard source (k + 1 + loopsAll before + loopsAll inside) false behind) :=
      (hbehind.within _ ihbehind).mono (Nat.le_refl _) (Nat.le_refl _) (by omega) (by omega)
    have hstart := hbefore.le
    have hentry := le_entry body isBlock
    have hstop := hbehind.le
    unfold edits
    have hall := ((hfront.append hbody hstart (by omega)).append hback (by omega) hstop).mono
      (Nat.le_succ span.start) (Nat.le_refl _) (Int.le_refl _) (Int.le_refl _)
    exact hall.closed (by omega) rfl rfl (by simp only [Insertion.level]; omega) (Nat.le_refl _)

end Nest

end LivePreview.Guard
