import LivePreview.Proofs.Guard.Order
import LivePreview.Transform

/-!
# What the loop guard leaves of a script

1. Whatever is spliced into a source, the source is still there, in order (`Weaves`); and what is
   spliced in are the texts of its loops and nothing else (`instrument_weaves`). A source without
   loops is not changed.
2. What goes before a loop starts with a brace, and a declaration of a function that ends without
   its body, at the end of a line, takes a brace on the next line for the start of the body. So a
   loop behind such a declaration is moved into it, and what was a script may be none
   (`instrument_breaks_declaration`).
-/

namespace LivePreview.Guard

/-- A text is a source with texts put into it, in their order. -/
inductive Weaves : List (List Char) → List Char → List Char → Prop where
  | unchanged (source : List Char) : Weaves [] source source
  | put (before text : List Char) {texts : List (List Char)} {source out : List Char}
      (h : Weaves texts source out) :
      Weaves (text :: texts) (before ++ source) (before ++ text ++ out)

theorem Weaves.eq_of_nil {source out : List Char} (h : Weaves [] source out) : out = source := by
  cases h
  rfl

theorem emit_weaves (at0 : Nat) (source : List Char) (es : List Insertion) :
    Weaves (es.map Insertion.text) source (emit at0 source es) := by
  induction es generalizing at0 source with
  | nil => exact .unchanged source
  | cons e es ih =>
    have hrest := ih e.offset (Text.dropBytes (e.offset - at0) source)
    have hput := Weaves.put (Text.takeBytes (e.offset - at0) source) e.text hrest
    rwa [Text.takeBytes_append_dropBytes] at hput

/-- What is put in for the loops of an outline, from a number on: in front of a loop and behind it,
and into its body. -/
def loopTexts (guard : LoopGuard) (source : List Char) : Nat → List Landmark → List (List Char)
  | _, [] => []
  | seq, .labelled _ _ :: rest => loopTexts guard source seq rest
  | seq, .loop span _ isBlock :: rest =>
    let check := guard.check seq (Text.lineOf source span.start)
    opening seq :: ['\x7d'] :: (if isBlock then [check] else ['\x7b' :: check, ['\x7d']]) ++
      loopTexts guard source (seq + 1) rest

/-- Visiting an outline notes the texts of its loops. -/
theorem texts_foldl_visit (guard : LoopGuard) (source : List Char) (outline : List Landmark)
    (plan : Plan) :
    (outline.foldl (Plan.visit guard source) plan).insertions.reverse.map Insertion.text =
      plan.insertions.reverse.map Insertion.text ++ loopTexts guard source plan.next outline := by
  induction outline generalizing plan with
  | nil => exact (List.append_nil _).symm
  | cons landmark outline ih =>
    rw [List.foldl_cons, ih]
    cases landmark with
    | labelled span bodyStart => rfl
    | loop span body isBlock =>
      cases isBlock <;> simp [Plan.visit, Plan.addLoop, loopTexts]

/-- Splicing keeps the source and puts in the texts of its loops. -/
theorem instrument_weaves (guard : LoopGuard) (source : List Char) (outline : List Landmark) :
    ∃ texts, texts.Perm (loopTexts guard source 0 outline) ∧
      Weaves texts source (guard.instrument source outline) := by
  refine ⟨_, ?_, emit_weaves 0 source _⟩
  have htexts := texts_foldl_visit guard source outline .empty
  rw [show Plan.empty.insertions = [] from rfl, List.reverse_nil, List.map_nil,
    List.nil_append] at htexts
  rw [show 0 = Plan.empty.next from rfl, ← htexts]
  exact (List.mergeSort_perm _ _).map Insertion.text

end LivePreview.Guard

namespace LivePreview

open Guard (LoopGuard Weaves loopTexts outline)

/-- **What the engine does to a script.** The error of a source that is no script is the engine's.
Any other source is guarded, which keeps it and puts in the texts of its loops and no others; and
without loops the engine erases and prints the very script that was read. -/
theorem engine_weaves (guard : LoopGuard) (source : List Char) :
    match Script.parse source with
    | .error report => Engine.typed guard source = .error (.ofReport source report)
    | .ok program =>
      ∃ out texts, instrument guard source = .ok out ∧ Weaves texts source out ∧
        texts.Perm (loopTexts guard source 0 (outline (program.body ++ program.types))) ∧
        (texts = [] → out = source ∧
          Engine.typed guard source =
            match program.erase with
            | .error cause => .error (.failed cause)
            | .ok body => .ok (some (program.print body).toList)) := by
  cases hparse : Script.parse source with
  | error report =>
    delta Engine.typed instrument
    simp only [hparse]
  | ok program =>
    have hout : instrument guard source =
        .ok (guard.instrument source (outline (program.body ++ program.types))) := by
      delta instrument
      simp only [hparse]
    obtain ⟨texts, hperm, hweaves⟩ := Guard.instrument_weaves guard source
      (outline (program.body ++ program.types))
    refine ⟨_, texts, hout, hweaves, hperm, ?_⟩
    rintro rfl
    have hsame := hweaves.eq_of_nil
    rw [hsame] at hout ⊢
    refine ⟨rfl, ?_⟩
    delta Engine.typed
    cases herase : program.erase <;> simp only [hout, hparse, herase]

/-! ## Bodiless declarations -/

/-- The loops and labels of a source, if it is a script. -/
def landmarksOf (source : List Char) : List Guard.Landmark :=
  match Script.parse source with
  | .ok program => (program.body ++ program.types).flatMap fun n =>
      n.fold fun n inside => Guard.Landmark.ofNode n ++ inside.flatten
  | .error _ => []

/-- A source with one loop, whose body is a block, guarded. -/
def guardLoop (guard : LoopGuard) (source : List Char) (span body : Script.Span) : List Char :=
  Guard.emit 0 source
    [⟨span.start, .open, 0, 0, Guard.opening 0⟩,
      ⟨body.start + 1, .open, 0, 1, guard.check 0 (Text.lineOf source span.start)⟩,
      ⟨span.stop, .close, 0, 1, ['\x7d']⟩]

/-- What the guard makes of a script with one loop that has a block for its body. -/
theorem instrument_eq_guardLoop (guard : LoopGuard) {source : List Char} {span body : Script.Span}
    (h : landmarksOf source = [.loop span body true]) (hbody : span.start < body.start + 1)
    (hstop : body.start + 1 < span.stop) :
    ∃ program, Script.parse source = .ok program ∧
      outline (program.body ++ program.types) = [.loop span body true] ∧
      instrument guard source = .ok (guardLoop guard source span body) := by
  unfold landmarksOf at h
  cases hparse : Script.parse source with
  | error report =>
    rw [hparse] at h
    cases h
  | ok program =>
    rw [hparse] at h
    have houtline : outline (program.body ++ program.types) = [.loop span body true] := by
      unfold outline
      dsimp only at h ⊢
      rw [h]
      exact List.mergeSort_singleton _
    refine ⟨program, rfl, houtline, ?_⟩
    delta instrument
    simp only [hparse, houtline]
    refine congrArg Except.ok (Guard.splice_eq_emit (.cons _ (.swap _ _ [])) ?_)
    simp only [List.pairwise_cons, List.forall_mem_cons, List.not_mem_nil, false_implies,
      implies_true, and_true, List.Pairwise.nil]
    exact ⟨⟨.inl hbody, .inl (Nat.lt_trans hbody hstop)⟩, .inl hstop⟩

/-- A guarded source that is no script makes the engine fail. -/
theorem Engine.typed_of_invalid {guard : LoopGuard} {source out : List Char}
    {report : Script.Report} (hout : instrument guard source = .ok out)
    (hbad : Script.parse out = .error report) :
    Engine.typed guard source =
      .error (.failed ("loop guard produced invalid source: " ++ report.diagnostic.message)) := by
  delta Engine.typed
  simp only [hout, hbad]

/-- A loop on the line behind a declared function that has no body. -/
def declarationThenLoop : List Char := "declare function f(): void\nfor (;;) \x7b\x7d".toList

/-- A loop on the line behind an overload of a function. -/
def overloadThenLoop : List Char := "function f(): void\nwhile (x) \x7b\x7d".toList

/-- The number of statements of a source, if it is a script. -/
def statementsOf (source : List Char) : Option Nat :=
  (Script.parse source).toOption.map fun program => program.body.length

theorem landmarksOf_declarationThenLoop :
    landmarksOf declarationThenLoop = [.loop ⟨27, 38⟩ ⟨36, 38⟩ true] := by
  decide +kernel

theorem landmarksOf_overloadThenLoop :
    landmarksOf overloadThenLoop = [.loop ⟨19, 31⟩ ⟨29, 31⟩ true] := by
  decide +kernel

/-- The guard gives a declaration a body, which it may not have, and it moves a loop into an
overload, so that one statement is left of two. -/
theorem instrument_breaks_declaration :
    (∃ program out report, Script.parse declarationThenLoop = .ok program ∧
      instrument (.ofMilliseconds 100) declarationThenLoop = .ok out ∧
      Script.parse out = .error report ∧
      Engine.typed (.ofMilliseconds 100) declarationThenLoop =
        .error (.failed ("loop guard produced invalid source: " ++ report.diagnostic.message))) ∧
    statementsOf overloadThenLoop = some 2 ∧
      ∃ out, instrument (.ofMilliseconds 100) overloadThenLoop = .ok out ∧
        statementsOf out = some 1 := by
  constructor
  · obtain ⟨program, hparse, -, hout⟩ := instrument_eq_guardLoop (.ofMilliseconds 100)
      landmarksOf_declarationThenLoop (by decide) (by decide)
    have hbad : (Script.parse (guardLoop (.ofMilliseconds 100) declarationThenLoop ⟨27, 38⟩
        ⟨36, 38⟩)).toBool = false := by
      decide +kernel
    cases hagain : Script.parse
        (guardLoop (.ofMilliseconds 100) declarationThenLoop ⟨27, 38⟩ ⟨36, 38⟩) with
    | ok program' =>
      rw [hagain] at hbad
      cases hbad
    | error report =>
      exact ⟨program, _, report, hparse, hout, hagain, Engine.typed_of_invalid hout hagain⟩
  · obtain ⟨-, -, -, hout⟩ := instrument_eq_guardLoop (.ofMilliseconds 100)
      landmarksOf_overloadThenLoop (by decide) (by decide)
    refine ⟨by decide +kernel, _, hout, ?_⟩
    decide +kernel

end LivePreview
