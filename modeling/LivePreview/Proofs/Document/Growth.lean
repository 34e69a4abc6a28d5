import LivePreview.Proofs.Document.Channels

/-!
# Texts that grow

What is typed at the end of a text leaves the blocks that are read of it as they are.

1. Whether a block stands between two positions depends on the text between them alone
   (`opens_append_iff`, `stands_append_iff`).
2. Inside a block no fence starts but the closing one (`Stands.not_fence`). So a fence that is
   closed by what is typed does not stand in front of a block that is read already.
3. The blocks that are met in a text are met in the longer one, at the same positions, and reading
   goes on behind the last of them (`Meets.append`, `Meets.scan`).
-/

namespace LivePreview.Document

/-- A block and the positions that it stands between. -/
structure Placed where
  start : Nat
  block : Block
  stop : Nat

/-- From one position on these blocks are met, each at the first place where one opens, and the last
one stops at the other position. -/
inductive Meets (text : List Char) : Nat → List Placed → Nat → Prop where
  | nothing (p : Nat) : Meets text p [] p
  | block (p q : Nat) (met : Placed) (placed : List Placed) (hle : p ≤ met.start)
      (hfirst : ∀ s, p ≤ s → s < met.start → ∀ block stop, ¬ Stands text s block stop)
      (hstands : Stands text met.start met.block met.stop) (hrest : Meets text met.stop placed q) :
      Meets text p (met :: placed) q

/-! ## A block and what is behind it -/

section

variable {p : Char → Bool} {cs run body rest more : List Char} {block : Block}

/-- A run ends where something else is, whatever is behind that. -/
theorem run_append_iff (hne : rest ≠ []) :
    Run p (cs ++ more) run (rest ++ more) ↔ Run p cs run rest := by
  have hhead : (rest ++ more).head? = rest.head? := by
    obtain ⟨c, cs, rfl⟩ := List.exists_cons_of_ne_nil hne
    rfl
  constructor
  · rintro ⟨htext, hrun, hall, hmax⟩
    rw [← List.append_assoc, List.append_cancel_right_eq] at htext
    exact ⟨htext, hrun, hall, hhead ▸ hmax⟩
  · rintro ⟨rfl, hrun, hall, hmax⟩
    exact ⟨List.append_assoc run rest more, hrun, hall, hhead.symm ▸ hmax⟩

/-- The first fence is the first, whatever is behind it. -/
theorem upToFence_append_iff :
    UpToFence (cs ++ more) body (rest ++ more) ↔ UpToFence cs body rest := by
  have htext : cs ++ more = body ++ (fence ++ (rest ++ more)) ↔ cs = body ++ (fence ++ rest) := by
    rw [← List.append_assoc fence, ← List.append_assoc body, List.append_cancel_right_eq]
  -- a fence that starts in the body does not reach behind the closing one
  have hfence : ∀ n < body.length, cs = body ++ (fence ++ rest) →
      (fence <+: (cs ++ more).drop n ↔ fence <+: cs.drop n) := by
    intro n hn hcs
    have hlength : fence.length ≤ (cs.drop n).length := by
      simp only [hcs, List.length_drop, List.length_append]
      omega
    rw [List.drop_append_of_le_length (by simp only [hcs, List.length_append]; omega)]
    exact ⟨fun h => List.prefix_of_prefix_length_le h (List.prefix_append _ _) hlength,
      fun h => h.trans (List.prefix_append _ _)⟩
  constructor
  · rintro ⟨h, hfirst⟩
    have hcs := htext.mp h
    exact ⟨hcs, fun n hn hf => hfirst n hn ((hfence n hn hcs).mpr hf)⟩
  · rintro ⟨hcs, hfirst⟩
    exact ⟨htext.mpr hcs, fun n hn hf => hfirst n hn ((hfence n hn hcs).mp hf)⟩

/-- A block opens at its own text, whatever is behind that. -/
theorem opens_append_iff : Opens (cs ++ more) block (rest ++ more) ↔ Opens cs block rest := by
  constructor
  · rintro ⟨behindFence, behindTag, lineEnds, behindEnds, hcs, htag, hends, hbody⟩
    obtain ⟨closing, rfl⟩ : ∃ closing, behindEnds = closing ++ more :=
      ⟨block.body ++ (fence ++ rest), by simp only [hbody.text, List.append_assoc]⟩
    obtain ⟨ends, rfl⟩ : ∃ ends, behindTag = ends ++ more :=
      ⟨lineEnds ++ closing, by rw [hends.text, List.append_assoc]⟩
    obtain ⟨tag, rfl⟩ : ∃ tag, behindFence = tag ++ more :=
      ⟨block.tag ++ ends, by rw [htag.text, List.append_assoc]⟩
    rw [upToFence_append_iff] at hbody
    have hclosing : closing ≠ [] := by simp [hbody.text, fence]
    rw [run_append_iff hclosing] at hends
    have hne : ends ≠ [] := by simp [hends.text, hclosing]
    rw [run_append_iff hne] at htag
    rw [← List.append_assoc, List.append_cancel_right_eq] at hcs
    exact ⟨tag, ends, lineEnds, closing, hcs, htag, hends, hbody⟩
  · rintro ⟨tag, ends, lineEnds, closing, rfl, htag, hends, hbody⟩
    have hclosing : closing ≠ [] := by simp [hbody.text, fence]
    have hne : ends ≠ [] := by simp [hends.text, hclosing]
    exact ⟨tag ++ more, ends ++ more, lineEnds, closing ++ more, List.append_assoc fence tag more,
      (run_append_iff hne).mpr htag, (run_append_iff hclosing).mpr hends,
      upToFence_append_iff.mpr hbody⟩

end

section

variable {text more : List Char} {s s' n stop stop' p q : Nat} {block block' : Block}
  {placed : List Placed} {bs : List Block}

theorem Stands.lt (h : Stands text s block stop) : s < stop := by
  have hlength := blockAt_length (blockAt_eq_some_iff.mpr h.2)
  have hle := h.1
  rw [List.length_drop, List.length_drop] at hlength
  omega

theorem Stands.fence_prefix (h : Stands text s block stop) : fence <+: text.drop s := by
  obtain ⟨behind, -, -, -, hcs, -⟩ := h.2
  exact ⟨behind, hcs.symm⟩

/-- Whether a block stands in a text does not depend on what is typed behind it. -/
theorem stands_append_iff (hle : stop ≤ text.length) :
    Stands (text ++ more) s block stop ↔ Stands text s block stop := by
  have hstop : (text ++ more).drop stop = text.drop stop ++ more :=
    List.drop_append_of_le_length hle
  have hstart (hlt : s < stop) : (text ++ more).drop s = text.drop s ++ more :=
    List.drop_append_of_le_length (Nat.le_trans (Nat.le_of_lt hlt) hle)
  constructor
  · intro h
    have hopens := h.2
    rw [hstop, hstart h.lt, opens_append_iff] at hopens
    exact ⟨hle, hopens⟩
  · intro h
    have hopens : Opens (text.drop s ++ more) block (text.drop stop ++ more) :=
      opens_append_iff.mpr h.2
    rw [← hstop, ← hstart h.lt] at hopens
    exact ⟨by rw [List.length_append]; omega, hopens⟩

/-! ## Inside a block -/

/-- A fence is three backticks. -/
theorem getElem?_of_fence {cs : List Char} (h : fence <+: cs.drop n) (m : Nat) (hle : n ≤ m)
    (hlt : m < n + fence.length) : cs[m]? = some '`' := by
  obtain ⟨behind, hdrop⟩ := h
  obtain ⟨k, rfl⟩ := Nat.exists_eq_add_of_le hle
  have hk : k < fence.length := by omega
  rw [← List.getElem?_drop, ← hdrop, List.getElem?_append_left hk,
    show fence = List.replicate 3 '`' from rfl, List.getElem?_replicate]
  exact if_pos hk

/-- No fence starts in a block but the ones that it opens and closes with. -/
theorem Opens.not_fence {cs rest : List Char} (h : Opens cs block rest) (hpos : 0 < n)
    (hlt : n + fence.length + rest.length < cs.length) : ¬ fence <+: cs.drop n := by
  intro hf
  obtain ⟨behindFence, behindTag, lineEnds, behindEnds, rfl, htag, hends, hbody⟩ := h
  -- neither the tag nor the line ends have a backtick, and the opening fence reaches up to the tag
  have hrun : fence ++ behindFence = fence ++ (block.tag ++ lineEnds) ++ behindEnds := by
    rw [htag.text, hends.text, List.append_assoc, List.append_assoc]
  have hfree : ∀ c ∈ block.tag ++ lineEnds, c ≠ '`' := by
    rintro c hc rfl
    rcases List.mem_append.mp hc with hc | hc
    · exact absurd (htag.all _ hc) (by decide)
    · exact absurd (hends.all _ hc) (by decide)
  have htagged : 0 < (block.tag ++ lineEnds).length :=
    List.length_pos_iff.mpr (List.append_ne_nil_of_left_ne_nil htag.nonempty _)
  have hbehind : fence.length + (block.tag ++ lineEnds).length ≤ n := by
    refine Nat.le_of_not_lt fun hn => ?_
    have hthree : fence.length = 3 := rfl
    have hat := getElem?_of_fence hf (max n fence.length) (by omega) (by omega)
    rw [hrun, List.append_assoc, List.getElem?_append_right (by omega),
      List.getElem?_append_left (by omega)] at hat
    exact hfree _ (List.mem_of_getElem? hat) rfl
  have hlength : (fence ++ behindFence).length = fence.length + (block.tag ++ lineEnds).length +
      (block.body.length + (fence.length + rest.length)) := by
    rw [hrun, hbody.text]
    simp only [List.length_append]
  refine hbody.first (n - (fence ++ (block.tag ++ lineEnds)).length) ?_ ?_
  · rw [List.length_append]
    omega
  · rw [hrun, List.drop_append, List.drop_eq_nil_of_le (by rw [List.length_append]; omega),
      List.nil_append] at hf
    exact hf

theorem Stands.not_fence (h : Stands text s block stop) (hlt : s < s')
    (hlt' : s' + fence.length < stop) : ¬ fence <+: text.drop s' := by
  have hle := h.1
  have hinside := h.2.not_fence (n := s' - s) (by omega) (by simp only [List.length_drop]; omega)
  rwa [List.drop_drop, Nat.add_sub_cancel' (Nat.le_of_lt hlt)] at hinside

/-! ## Reading on -/

/-- What is typed opens no block in front of one that stands already. -/
theorem Stands.not_stands_append (h : Stands text s block stop)
    (hnone : ∀ block stop, ¬ Stands text s' block stop) (hlt : s' < s) :
    ¬ Stands (text ++ more) s' block' stop' := by
  intro h'
  by_cases hle : stop' ≤ text.length
  · exact hnone block' stop' ((stands_append_iff hle).mp h')
  · have hlength := h.fence_prefix.length_le
    have hlonger : Stands (text ++ more) s block stop := (stands_append_iff h.1).mpr h
    rw [List.length_drop] at hlength
    have hthree : fence.length = 3 := rfl
    exact h'.not_fence hlt (by omega) hlonger.fence_prefix

/-- What is met in a text is met in a longer one. -/
theorem Meets.append (h : Meets text p placed q) (more : List Char) :
    Meets (text ++ more) p placed q := by
  induction h with
  | nothing p => exact .nothing p
  | block p q met placed hle hfirst hstands _ ih =>
    refine .block p q met placed hle (fun s hge hlt block stop => ?_)
      ((stands_append_iff hstands.1).mpr hstands) ih
    exact hstands.not_stands_append (hfirst s hge hlt) hlt

/-- Behind what is met, the scan goes on. -/
theorem Meets.scan (h : Meets text p placed q) (hscan : Scan text q bs) :
    Scan text p (placed.map Placed.block ++ bs) := by
  induction h with
  | nothing p => exact hscan
  | block p q met placed hle hfirst hstands _ ih =>
    exact .block p met.start met.stop met.block _ hle hfirst hstands (ih hscan)

/-- The blocks of a scan are met at positions of the text. -/
theorem Scan.meets (h : Scan text p bs) :
    ∃ placed q, Meets text p placed q ∧ bs = placed.map Placed.block := by
  induction h with
  | done p _ => exact ⟨[], p, .nothing p, rfl⟩
  | block p s stop block blocks hle hfirst hstands _ ih =>
    obtain ⟨placed, q, hmeets, rfl⟩ := ih
    exact ⟨⟨s, block, stop⟩ :: placed, q, .block p q _ placed hle hfirst hstands hmeets, rfl⟩

end

/-- More bodies leave a join as its start. -/
theorem joinLines_prefix (bodies more : List (List Char)) :
    joinLines bodies <+: joinLines (bodies ++ more) := by
  by_cases hb : bodies = []
  · exact hb ▸ List.nil_prefix
  · by_cases hm : more = []
    · exact ⟨[], by rw [hm, List.append_nil, List.append_nil]⟩
    · exact ⟨_, (joinLines_append hb hm).symm⟩

/-! ## The main theorem -/

/-- **What is typed leaves what is read.** When a text is appended to:

1. The blocks that were read of it are read again, at the same positions, and further blocks are
   read only behind the last of them.
2. The text of each channel stays the start of the channel's text. -/
theorem extract_keeps_blocks (text more : List Char) :
    (∃ placed q, Meets text 0 placed q ∧ blocks text = placed.map Placed.block ∧
      Meets (text ++ more) 0 placed q ∧
      blocks (text ++ more) = blocks text ++ blocks ((text ++ more).drop q)) ∧
    blocks text <+: blocks (text ++ more) ∧
    ∀ channel, (extract text).get channel <+: (extract (text ++ more)).get channel := by
  obtain ⟨placed, q, hmeets, hblocks⟩ := (scan_blocks text 0).meets
  have hlonger := hmeets.append more
  have hscan := scan_iff.mp (hlonger.scan (scan_blocks (text ++ more) q))
  rw [List.drop_zero] at hblocks hscan
  rw [← hblocks] at hscan
  refine ⟨⟨placed, q, hmeets, hblocks, hlonger, hscan.symm⟩, ⟨_, hscan⟩, fun channel => ?_⟩
  rw [get_extract, get_extract, contributions, contributions, ← hscan, List.filterMap_append]
  exact joinLines_prefix _ _

/-- A backtick that is typed makes a block of a fence that was open, behind the block in front. -/
example :
    let text := "```css\na``````js\nb``".toList
    blocks text = [⟨['c', 's', 's'], ['a']⟩] ∧
      blocks (text ++ ['`']) = [⟨['c', 's', 's'], ['a']⟩, ⟨['j', 's'], ['b']⟩] := by
  decide +kernel

end LivePreview.Document
