import LivePreview.Page
import LivePreview.Proofs.Text.Template

/-!
# The pages, filled

Every key of a page starts with an underscore, and no piece between them has one. So the pages are
their pieces with the values put in between (`preview_eq`, `shell_eq`), whatever the values are.
-/

namespace LivePreview.Page

open Text (Part Marked toList_fill)

/-- A literal has the characters it was written with. -/
theorem not_mem_toList_ofList {c : Char} {cs : List Char} (h : c ∉ cs) :
    c ∉ (String.ofList cs).toList := by
  rwa [String.toList_ofList]

theorem not_mem_toList_append {c : Char} {s t : String} (hs : c ∉ s.toList) (ht : c ∉ t.toList) :
    c ∉ (s ++ t).toList := by
  rw [String.toList_append, List.mem_append]
  exact not_or.mpr ⟨hs, ht⟩

theorem pageHead_unmarked : '_' ∉ pageHead.toList :=
  not_mem_toList_append (not_mem_toList_ofList (by decide)) (not_mem_toList_ofList (by decide))

theorem previewHead_unmarked : '_' ∉ previewHead.toList :=
  not_mem_toList_append pageHead_unmarked (not_mem_toList_ofList (by decide))

theorem shellHead_unmarked : '_' ∉ shellHead.toList :=
  not_mem_toList_append pageHead_unmarked (not_mem_toList_ofList (by decide))

theorem shellFrame_unmarked : '_' ∉ shellFrame.toList :=
  not_mem_toList_append (not_mem_toList_ofList (by decide)) (not_mem_toList_ofList (by decide))

/-! ## The preview -/

/-- The parts of a preview. -/
def previewParts (markup style script : String) : List Part :=
  [⟨previewHead.toList, "__FENCEPLAY_STYLE__".toList, style.toList⟩,
    ⟨previewBody.toList, "__FENCEPLAY_MARKUP__".toList, markup.toList⟩,
    ⟨previewScript.toList, "__FENCEPLAY_BEHAVIOR__".toList, script.toList⟩]

section

variable (markup style script : String)

theorem marked_previewParts : Marked '_' ((previewParts markup style script).map Part.key) := by
  simp only [previewParts, List.map_cons, List.map_nil]
  rw [show "__FENCEPLAY_STYLE__".toList = _ from String.toList_ofList,
    show "__FENCEPLAY_MARKUP__".toList = _ from String.toList_ofList,
    show "__FENCEPLAY_BEHAVIOR__".toList = _ from String.toList_ofList]
  exact ⟨by decide, by decide⟩

theorem previewParts_unmarked :
    (∀ p ∈ previewParts markup style script, '_' ∉ p.piece) ∧ '_' ∉ previewEnd.toList := by
  refine ⟨fun p hp => ?_, not_mem_toList_ofList (by decide)⟩
  simp only [previewParts, List.mem_cons, List.not_mem_nil, or_false] at hp
  rcases hp with rfl | rfl | rfl <;> dsimp only
  · exact previewHead_unmarked
  · exact not_mem_toList_ofList (by decide)
  · exact not_mem_toList_ofList (by decide)

/-- A preview has each of its three values in its place, as it is. -/
theorem preview_eq :
    preview markup style script = previewHead ++ style ++ previewBody ++ markup ++ previewScript ++
      script ++ previewEnd := by
  obtain ⟨hpieces, hend⟩ := previewParts_unmarked markup style script
  have htemplate : previewTemplate.toList =
      Part.sources (previewParts markup style script) ++ previewEnd.toList := by
    simp only [previewTemplate, String.toList_append, Part.sources, previewParts,
      List.flatMap_cons, List.flatMap_nil, List.append_assoc, List.append_nil]
  rw [← String.toList_inj, preview]
  refine Eq.trans (toList_fill htemplate ?_ (marked_previewParts _ _ _) hpieces hend) ?_
  · simp only [previewParts, List.map_cons, List.map_nil]
  · simp only [String.toList_append, Part.filled, previewParts, List.flatMap_cons,
      List.flatMap_nil, List.append_assoc, List.append_nil]

end

/-! ## The shell page -/

/-- The parts of a shell page; title, address and script are as they stand in it. -/
def shellParts (title source script : String) : List Part :=
  [⟨shellHead.toList, "__FENCEPLAY_TITLE__".toList, title.toList⟩,
    ⟨shellHeading.toList, "__FENCEPLAY_SHELL_CSS__".toList, shellStyle.toList⟩,
    ⟨shellFrame.toList, "__FENCEPLAY_SRC__".toList, source.toList⟩,
    ⟨shellScript.toList, "__FENCEPLAY_HOTRELOAD_JS__".toList, script.toList⟩]

section

variable (title source script : String)

theorem marked_shellParts : Marked '_' ((shellParts title source script).map Part.key) := by
  simp only [shellParts, List.map_cons, List.map_nil]
  rw [show "__FENCEPLAY_TITLE__".toList = _ from String.toList_ofList,
    show "__FENCEPLAY_SHELL_CSS__".toList = _ from String.toList_ofList,
    show "__FENCEPLAY_SRC__".toList = _ from String.toList_ofList,
    show "__FENCEPLAY_HOTRELOAD_JS__".toList = _ from String.toList_ofList]
  exact ⟨by decide, by decide⟩

theorem shellParts_unmarked :
    (∀ p ∈ shellParts title source script, '_' ∉ p.piece) ∧ '_' ∉ shellEnd.toList := by
  refine ⟨fun p hp => ?_, not_mem_toList_ofList (by decide)⟩
  simp only [shellParts, List.mem_cons, List.not_mem_nil, or_false] at hp
  rcases hp with rfl | rfl | rfl | rfl <;> dsimp only
  · exact shellHead_unmarked
  · exact not_mem_toList_ofList (by decide)
  · exact shellFrame_unmarked
  · exact not_mem_toList_ofList (by decide)

end

/-- The script of a shell page that listens at a port. -/
def shellReload (port : Nat) : String :=
  Text.fill reloadScript [("__FENCEPLAY_WS_PORT__", String.ofList (Text.decimal port))]

/-- A shell page whose frame has an address, just as it is, between the quotes. -/
def framing (title source : String) (port : Nat) : String :=
  shellHead ++ Text.escape title ++ shellHeading ++ shellStyle ++ shellFrame ++ source ++
    shellScript ++ shellReload port ++ shellEnd

/-- A shell page frames its address, escaped for the quotes. -/
theorem shell_eq (title source : String) (port : Nat) :
    shell title source port = framing title (Text.escapeAttribute source) port := by
  obtain ⟨hpieces, hend⟩ := shellParts_unmarked (Text.escape title) (Text.escapeAttribute source)
    (shellReload port)
  have htemplate : shellTemplate.toList = Part.sources (shellParts (Text.escape title)
      (Text.escapeAttribute source) (shellReload port)) ++ shellEnd.toList := by
    simp only [shellTemplate, String.toList_append, Part.sources, shellParts,
      List.flatMap_cons, List.flatMap_nil, List.append_assoc, List.append_nil]
  rw [← String.toList_inj, shell, ← shellReload]
  refine Eq.trans (toList_fill htemplate ?_ (marked_shellParts _ _ _) hpieces hend) ?_
  · simp only [shellParts, List.map_cons, List.map_nil]
  · simp only [framing, String.toList_append, Part.filled, shellParts, List.flatMap_cons,
      List.flatMap_nil, List.append_assoc, List.append_nil]

end LivePreview.Page
