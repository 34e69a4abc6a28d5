import LivePreview.Proofs.Document.Channels
import LivePreview.Proofs.Page
import LivePreview.Proofs.Text.Entity
import LivePreview.Rendering

/-!
# What a document renders to

1. A page is the preview skeleton with three texts in its regions (`Page.skeleton`), and a
   diagnostic is one that shows a message and nothing else (`Page.diagnostic_shows`).
2. The script of a document is blank only if no block contributes to it (`isAllBlank_script_iff`).
   So the engine is asked for every document with a script, once, and about the whole of it, and
   for no other document (`renderIn_eq_page`).
3. Typed scripts are guarded by whole milliseconds (`Engine.typed_readsMilliseconds`).
-/

namespace LivePreview

namespace Page

/-- The skeleton of a preview, with a style, a main part and a script. -/
def skeleton (style main script : String) : String :=
  previewHead ++ style ++ previewBody ++ main ++ previewScript ++ script ++ previewEnd

theorem preview_eq_skeleton (markup style script : String) :
    preview markup style script = skeleton style markup script :=
  preview_eq markup style script

/-- The main part shows a message, preformatted and in red, and nothing in the message is taken for
anything but text. -/
def Shows (message main : String) : Prop :=
  ∃ shown : List Char,
    main = "<pre style=\"color: red; padding: 1rem;\">" ++ String.ofList shown ++ "</pre>" ∧
    (∀ c ∈ ['<', '>', '"', '\''], c ∉ shown) ∧ Text.decodeReferences shown = message.toList

theorem diagnostic_shows (message : String) :
    ∃ main, diagnostic message = skeleton "" main "" ∧ Shows message main :=
  ⟨_, preview_eq_skeleton _ "" "", Text.escapeWith Text.textEntity message.toList, rfl,
    fun _ hc => Text.not_mem_escape hc _, Text.refers_textEntity.decodeReferences_escapeWith _⟩

end Page

namespace Document

/-- The bodies of a text's scripts, plain ones before typed ones. -/
def scripts (text : List Char) : List (List Char) :=
  contributions text .plainScript ++ contributions text .typedScript

theorem mem_scripts {text body : List Char} (h : body ∈ scripts text) :
    body ≠ [] ∧ ∀ c ∈ body.head?, Text.isBlank c = false :=
  (List.mem_append.mp h).elim mem_contributions mem_contributions

/-- A bundle's script is the join of all scripts of the text. -/
theorem script_extract (text : List Char) : (extract text).script = joinLines (scripts text) := by
  have hplain : (extract text).plainScript = joinLines (contributions text .plainScript) :=
    get_extract text .plainScript
  have htyped : (extract text).typedScript = joinLines (contributions text .typedScript) :=
    get_extract text .typedScript
  have hempty : ∀ channel, (joinLines (contributions text channel)).isEmpty = true ↔
      contributions text channel = [] := fun channel => by
    rw [List.isEmpty_iff, ← get_extract, get_extract_eq_nil_iff]
  rw [Bundle.script, hplain, htyped, scripts]
  by_cases hp : contributions text .plainScript = []
  · rw [if_pos ((hempty _).mpr hp), hp, List.nil_append]
  · rw [if_neg fun h => hp ((hempty _).mp h)]
    by_cases ht : contributions text .typedScript = []
    · rw [if_pos ((hempty _).mpr ht), ht, List.append_nil]
    · rw [if_neg fun h => ht ((hempty _).mp h), joinLines_append hp ht]

/-- A script is blank only where no block contributes to it. -/
theorem isAllBlank_script_iff {text : List Char} :
    Text.isAllBlank (extract text).script = true ↔ scripts text = [] := by
  have hne : ∀ body ∈ scripts text, body ≠ [] := fun body h => (mem_scripts h).1
  rw [script_extract, ← joinLines_eq_nil_iff hne]
  refine Text.isAllBlank_iff_of_head? fun c hc => ?_
  -- a script starts as its first body does
  cases hs : scripts text with
  | nil =>
    rw [hs] at hc
    cases hc
  | cons body bodies =>
    rw [hs, head?_joinLines (hs ▸ hne)] at hc
    exact (mem_scripts (hs ▸ List.mem_cons_self)).2 c hc

end Document

open Document (scripts contributions joinLines extract)

section

variable {m : Type → Type} [Monad m] {source : List Char}

theorem transformIn_of_blank (engine : EngineIn m) (guard : Guard.LoopGuard)
    (h : Text.isAllBlank source = true) : transformIn engine guard source = pure (.ok []) := by
  rw [transformIn, if_pos h]

theorem transformIn_of_not_blank (engine : EngineIn m) (guard : Guard.LoopGuard)
    (h : ¬ Text.isAllBlank source = true) :
    transformIn engine guard source =
      engine guard source >>= fun answer => pure (answer.map (·.getD [])) := by
  rw [transformIn, if_neg h]

end

/-- A page that shows an error shows nothing else. -/
theorem page_of_error (engine : Engine) (guard : Guard.LoopGuard) (text : List Char)
    {e : EngineError} (h : (render engine guard text).error? = some e) :
    (render engine guard text).page = Page.diagnostic e.message := by
  rw [render, renderIn] at h ⊢
  cases ht : transformIn (engine.within Id) guard (extract text).script with
  | ok script =>
    rw [ht] at h
    cases h
  | error e' =>
    rw [ht] at h
    cases h
    rfl

/-- **What a document renders to**, with the scripts of a text, its style and its markup being what
its blocks contribute to these channels.

1. Without scripts the engine is not asked, and the page is a preview with an empty script. With
   scripts it is asked about all of them, joined by line feeds, and nothing else is done in its
   monad. If it succeeds, its answer is the script of the preview, no answer being an empty one;
   if it fails, the page is the diagnostic of its error.
2. A diagnostic has no style and no script, and its main part shows the message of the error.
3. Texts on which engines fail with one error have one page. -/
theorem renderIn_eq_page {m : Type → Type} [Monad m] [LawfulMonad m] (engine : EngineIn m)
    (guard : Guard.LoopGuard) (text : List Char) :
    (renderIn engine guard text =
      let page := Page.skeleton (String.ofList (joinLines (contributions text .style)))
        (String.ofList (joinLines (contributions text .markup)))
      if scripts text = [] then pure (.preview (page ""))
      else engine guard (joinLines (scripts text)) >>= fun
        | .ok answer => pure (.preview (page (String.ofList (answer.getD []))))
        | .error e => pure (.diagnostic (Page.diagnostic e.message) e)) ∧
    (∀ e : EngineError, ∃ main, Page.diagnostic e.message = Page.skeleton "" main "" ∧
      Page.Shows e.message main) ∧
    ∀ (engine₁ engine₂ : Engine) (guard₁ guard₂ : Guard.LoopGuard) (text₁ text₂ : List Char)
      (e : EngineError), (render engine₁ guard₁ text₁).error? = some e →
        (render engine₂ guard₂ text₂).error? = some e →
        (render engine₁ guard₁ text₁).page = (render engine₂ guard₂ text₂).page := by
  refine ⟨?_, fun e => Page.diagnostic_shows e.message, fun _ _ _ _ _ _ e h₁ h₂ =>
    (page_of_error _ _ _ h₁).trans (page_of_error _ _ _ h₂).symm⟩
  have hmarkup : (extract text).markup = joinLines (contributions text .markup) :=
    Document.get_extract text .markup
  have hstyle : (extract text).style = joinLines (contributions text .style) :=
    Document.get_extract text .style
  rw [renderIn]
  dsimp only
  rw [hmarkup, hstyle]
  by_cases hs : scripts text = []
  · rw [if_pos hs, transformIn_of_blank engine guard (Document.isAllBlank_script_iff.mpr hs),
      pure_bind]
    dsimp only
    rw [Page.preview_eq_skeleton]
  · rw [if_neg hs, transformIn_of_not_blank engine guard
      (fun h => hs (Document.isAllBlank_script_iff.mp h)), Document.script_extract, bind_assoc]
    refine bind_congr fun answer => ?_
    rw [pure_bind]
    cases answer with
    | error e => rfl
    | ok answer =>
      dsimp only [Except.map]
      rw [Page.preview_eq_skeleton]

/-! ## Fractions of a millisecond -/

namespace Guard

variable {guard guard' : LoopGuard}

/-- Loops are checked by the milliseconds of the guard. -/
theorem LoopGuard.check_congr (h : guard.milliseconds = guard'.milliseconds) (seq line : Nat) :
    guard.check seq line = guard'.check seq line := by
  unfold check
  rw [h]

theorem Plan.visit_congr (h : guard.milliseconds = guard'.milliseconds) :
    Plan.visit guard = Plan.visit guard' := by
  funext source plan landmark
  cases landmark with
  | loop span body isBlock => simp only [visit, addLoop, LoopGuard.check_congr h]
  | labelled span bodyStart => rfl

end Guard

/-- An engine that reads the milliseconds of a guard, and no fraction of them. -/
def Engine.ReadsMilliseconds (engine : Engine) : Prop :=
  ∀ guard guard' : Guard.LoopGuard, guard.milliseconds = guard'.milliseconds →
    engine guard = engine guard'

theorem Engine.typed_readsMilliseconds : Engine.typed.ReadsMilliseconds := by
  intro guard guard' h
  have hguards : guard.instrument = guard'.instrument := by
    funext source outline
    rw [Guard.LoopGuard.instrument, Guard.LoopGuard.instrument, Guard.Plan.visit_congr h]
  have hinstrument : instrument guard = instrument guard' := by
    funext source
    unfold instrument
    rw [hguards]
  funext source
  unfold Engine.typed
  rw [hinstrument]

/-- Guards of the same milliseconds make the same pages for such an engine. -/
theorem render_congr {engine : Engine} (he : engine.ReadsMilliseconds)
    {guard guard' : Guard.LoopGuard} (h : guard.milliseconds = guard'.milliseconds)
    (text : List Char) :
    render engine guard text = render engine guard' text := by
  unfold render renderIn transformIn Engine.within
  rw [he guard guard' h]

/-- An engine that notes what it is asked about, and answers it. -/
def EngineIn.echo : EngineIn (StateM (List (List Char))) := fun _ source => do
  modify (source :: ·)
  return .ok (some source)

/-- A document with a typed script in front of a plain one. -/
def mixedDocument : List Char := "```css\nc``````ts\nb``````JS\r\na```".toList

theorem blocks_mixedDocument : Document.blocks mixedDocument =
    [⟨['c', 's', 's'], ['c']⟩, ⟨['t', 's'], ['b']⟩, ⟨['J', 'S'], ['a']⟩] := by
  decide +kernel

/-- Plain scripts go before typed ones, and the engine is asked once. -/
theorem renderIn_eq_page_echo :
    (renderIn EngineIn.echo (.ofMilliseconds 100) mixedDocument).run [] =
      (.preview (Page.skeleton "c" "" "a\nb"), ["a\nb".toList]) := by
  rw [(renderIn_eq_page EngineIn.echo (.ofMilliseconds 100) mixedDocument).1]
  unfold scripts contributions
  rw [blocks_mixedDocument, String.toList_ofList]
  rfl

end LivePreview
