import LivePreview.Proofs.Document.Channels

/-!
# Written documents

Prose with tagged blocks between its pieces, as it is written by hand, is read as it was written.

1. `Plain` texts have no three backticks in a row. They may start and end with one or two, so that
   a fence behind one need not be the first three backticks; but a block does not open where a
   backtick follows the first three (`blockAt_append_fence`).
2. A body stands on lines of its own. Reading takes line ends off its start and leaves one at its
   end (`Piece.read`), which trimming does not see (`trim_read`).
3. What is left to read behind a block is again a plain text in front of blocks
   (`blocks_written`).
-/

namespace LivePreview.Document

/-- A text without three backticks in a row. -/
structure Plain where
  text : List Char
  plain : ¬ fence <:+: text := by decide

/-- A block and the prose behind it. -/
structure Piece where
  tag : List Char
  body : Plain
  prose : Plain
  tag_ne_nil : tag ≠ [] := by decide
  tag_all : tag.all isTagChar = true := by decide

namespace Piece

/-- A block on lines of its own, and the prose behind it. -/
def text (piece : Piece) : List Char :=
  fence ++ (piece.tag ++ '\n' :: (piece.body.text ++ '\n' :: (fence ++ piece.prose.text)))

/-- What is read of a block. -/
def read (piece : Piece) : Block :=
  ⟨piece.tag, (piece.body.text ++ ['\n']).dropWhile isLineEnd⟩

end Piece

/-- Prose with blocks and further prose behind it. -/
def written (prose : Plain) (pieces : List Piece) : List Char :=
  prose.text ++ pieces.flatMap Piece.text

/-! ## Fences at the seams -/

section

variable {front rest text : List Char}

/-- A fence at the start of two texts is one of the first, unless that is backticks only. -/
theorem fence_prefix_append (h : fence <+: front ++ rest) :
    (∀ c ∈ front, c = '`') ∨ fence <+: front := by
  have hfront := List.prefix_append front rest
  by_cases hlength : front.length ≤ fence.length
  · refine .inl fun c hc => ?_
    have hmem : c ∈ fence := (List.prefix_of_prefix_length_le hfront h hlength).subset hc
    simpa [fence] using hmem
  · exact .inr (List.prefix_of_prefix_length_le h hfront (by omega))

/-- No block opens in front of a fence with less than three backticks of its own. -/
theorem blockAt_append_fence (hne : front ≠ []) (hf : ¬ fence <+: front) (rest : List Char) :
    blockAt (front ++ (fence ++ rest)) = none := by
  unfold blockAt
  split
  · rfl
  · next behind hbehind =>
    have htext := fence?_eq_some_iff.mp hbehind
    have hall := (fence_prefix_append ⟨behind, htext.symm⟩).resolve_right hf
    -- what is in front of the fence can as well stand behind it, and no tag has a backtick
    have hswap : front ++ fence = fence ++ front := by
      rw [List.eq_replicate_of_mem hall, show fence = List.replicate 3 '`' from rfl,
        List.replicate_append_replicate, List.replicate_append_replicate, Nat.add_comm]
    rw [← List.append_assoc, hswap, List.append_assoc, List.append_cancel_left_eq] at htext
    obtain ⟨c, cs, rfl⟩ := List.exists_cons_of_ne_nil hne
    obtain rfl := hall c List.mem_cons_self
    rw [← htext]
    rfl

theorem not_infix_tail {c : Char} {cs : List Char} (h : ¬ fence <:+: c :: cs) :
    ¬ fence <:+: cs := fun hcs => h (hcs.trans (List.suffix_cons c cs).isInfix)

/-- A plain text has no blocks. -/
theorem blocks_plain (h : ¬ fence <:+: text) : blocks text = [] := by
  induction text with
  | nil => rw [blocks]
  | cons c cs ih =>
    have hnone : blockAt (c :: cs) = none := by
      unfold blockAt
      rw [fence?_eq_none_iff.mpr fun hp => h hp.isInfix]
    rw [blocks]
    split
    · next hb => cases hnone.symm.trans hb
    · exact ih (not_infix_tail h)

/-- The first block behind a plain text is the one that opens there. -/
theorem blocks_plain_append {behind : List Char} {block : Block} (h : ¬ fence <:+: text)
    (hb : blockAt (fence ++ rest) = some (block, behind)) :
    blocks (text ++ (fence ++ rest)) = block :: blocks behind := by
  induction text with
  | nil =>
    rw [List.nil_append, show fence ++ rest = '`' :: ('`' :: '`' :: rest) from rfl, blocks]
    split
    · next hb' =>
      obtain ⟨rfl, rfl⟩ := Prod.mk.inj (Option.some.inj (hb.symm.trans hb'))
      rfl
    · next hb' => cases hb.symm.trans hb'
  | cons c cs ih =>
    have hnone : blockAt (c :: cs ++ (fence ++ rest)) = none :=
      blockAt_append_fence (List.cons_ne_nil c cs) (fun hp => h hp.isInfix) rest
    rw [List.cons_append, blocks]
    split
    · next hb' => cases hnone.symm.trans hb'
    · exact ih (not_infix_tail h)

/-- A plain text with a line feed behind it is plain. -/
theorem not_infix_concat (h : ¬ fence <:+: text) : ¬ fence <:+: text ++ ['\n'] := by
  intro hf
  rcases List.infix_concat_iff.mp hf with hs | hi
  · have hlast := hs.getLast (List.cons_ne_nil _ _)
    rw [List.getLast_concat] at hlast
    exact absurd hlast (by decide)
  · exact h hi

end

/-! ## A block as it is read -/

namespace Piece

variable (piece : Piece)

/-- The closing fence of a block is the first one behind what is read of its body. -/
theorem upToFence (rest : List Char) :
    UpToFence (piece.read.body ++ (fence ++ rest)) piece.read.body rest := by
  refine ⟨rfl, fun n hn hf => ?_⟩
  rw [List.drop_append_of_le_length (Nat.le_of_lt hn)] at hf
  have hsuffix : piece.read.body.drop n <:+ piece.body.text ++ ['\n'] :=
    (List.drop_suffix n _).trans (List.dropWhile_suffix isLineEnd)
  have hne : piece.read.body.drop n ≠ [] := fun h => by
    have hlength := congrArg List.length h
    simp only [List.length_drop, List.length_nil] at hlength
    omega
  rcases fence_prefix_append hf with hall | hf
  · have hlast := hsuffix.getLast hne
    rw [List.getLast_concat] at hlast
    exact absurd (hall _ (List.getLast_mem hne)) (by rw [hlast]; decide)
  · exact not_infix_concat piece.body.plain (hf.isInfix.trans hsuffix.isInfix)

/-- A block opens at its fence, and what is left behind it is the rest. -/
theorem opens (rest : List Char) :
    Opens (fence ++ (piece.tag ++ '\n' :: (piece.body.text ++ '\n' :: (fence ++ rest))))
      piece.read rest := by
  have hcut : piece.body.text ++ ['\n'] =
      (piece.body.text ++ ['\n']).takeWhile isLineEnd ++ piece.read.body :=
    List.takeWhile_append_dropWhile.symm
  refine ⟨_, '\n' :: (piece.body.text ++ '\n' :: (fence ++ rest)),
    '\n' :: (piece.body.text ++ ['\n']).takeWhile isLineEnd, piece.read.body ++ (fence ++ rest),
    rfl, ⟨rfl, piece.tag_ne_nil, List.all_eq_true.mp piece.tag_all, ?_⟩,
    ⟨?_, List.cons_ne_nil _ _, ?_, ?_⟩, piece.upToFence rest⟩
  · intro c hc
    cases hc
    decide
  · rw [List.cons_append, ← List.append_assoc _ piece.read.body, ← hcut, List.append_assoc,
      List.singleton_append]
  · intro c hc
    rcases List.mem_cons.mp hc with rfl | hc
    · decide
    · exact List.all_eq_true.mp List.all_takeWhile c hc
  · intro c hc
    cases hbody : piece.read.body with
    | nil =>
      rw [hbody] at hc
      cases hc
      decide
    | cons b body =>
      have hhead := List.head?_dropWhile_not isLineEnd (piece.body.text ++ ['\n'])
      rw [show (piece.body.text ++ ['\n']).dropWhile isLineEnd = b :: body from hbody] at hhead
      rw [hbody] at hc
      cases hc
      exact hhead

theorem isBlank_of_isLineEnd {c : Char} (h : isLineEnd c = true) : Text.isBlank c = true := by
  rw [isLineEnd, Bool.or_eq_true, beq_iff_eq, beq_iff_eq] at h
  rcases h with rfl | rfl <;> decide

/-- Trimming does not see what reading does to a body. -/
theorem trim_read : Text.trim piece.read.body = Text.trim piece.body.text := by
  have hends : ∀ c ∈ (piece.body.text ++ ['\n']).takeWhile isLineEnd, Text.isBlank c = true :=
    fun c hc => isBlank_of_isLineEnd (List.all_eq_true.mp List.all_takeWhile c hc)
  calc Text.trim piece.read.body
      = Text.trim (_ ++ (piece.read.body ++ [])) := (Text.trim_around hends (by simp)).symm
    _ = Text.trim ([] ++ (piece.body.text ++ ['\n'])) := by
      rw [List.append_nil, read, List.takeWhile_append_dropWhile, List.nil_append]
    _ = Text.trim piece.body.text := Text.trim_around (by simp) (List.forall_mem_singleton.mpr rfl)

end Piece

/-! ## The main theorem -/

/-- The blocks of a written document are those that were written. -/
theorem blocks_written (prose : Plain) (pieces : List Piece) :
    blocks (written prose pieces) = pieces.map Piece.read := by
  induction pieces generalizing prose with
  | nil =>
    rw [written, List.flatMap_nil, List.append_nil]
    exact blocks_plain prose.plain
  | cons piece pieces ih =>
    have hopens := piece.opens (written piece.prose pieces)
    have htext : written prose (piece :: pieces) = prose.text ++ (fence ++ (piece.tag ++
        '\n' :: (piece.body.text ++ '\n' :: (fence ++ written piece.prose pieces)))) := by
      simp [written, Piece.text]
    rw [htext, blocks_plain_append prose.plain (blockAt_eq_some_iff.mpr hopens), ih, List.map_cons]

/-- **Documents are read as they are written.** In a document of prose with tagged blocks on lines
of their own, where neither prose nor bodies have three backticks in a row, each block is read, in
order; and the text of a channel is the trimmed bodies of the blocks with one of its tags, blank
ones left out, in order and joined by line feeds. -/
theorem extract_written (prose : Plain) (pieces : List Piece) :
    blocks (written prose pieces) = pieces.map Piece.read ∧
    ∀ channel, (extract (written prose pieces)).get channel =
      joinLines ((pieces.filter fun piece => piece.tag.map Char.toLower ∈ channel.tags ∧
        Text.trim piece.body.text ≠ []).map fun piece => Text.trim piece.body.text) := by
  refine ⟨blocks_written prose pieces, fun channel => ?_⟩
  rw [get_extract, contributions, blocks_written]
  refine congrArg joinLines ?_
  induction pieces with
  | nil => rfl
  | cons piece pieces ih =>
    have hcontribution : piece.read.contribution? channel =
        if piece.tag.map Char.toLower ∈ channel.tags ∧ Text.trim piece.body.text ≠ [] then
          some (Text.trim piece.body.text)
        else none := by
      simp only [Block.contribution?, Channel.ofTag?_eq_some_iff, piece.trim_read]
      rfl
    rw [List.map_cons, List.filterMap_cons, hcontribution, ih, List.filter_cons]
    by_cases h : piece.tag.map Char.toLower ∈ channel.tags ∧ Text.trim piece.body.text ≠ []
    · simp [h]
    · simp [h]

/-- Backticks in front of an opening fence, and a word right behind a closing one. -/
example :
    let script : Piece := {
      tag := ['j', 's']
      body := { text := ['\n', 'a', '`'] }
      prose := { text := ['t', 's', '\n', '`'] } }
    let style : Piece := {
      tag := ['c', 's', 's']
      body := { text := [' '] }
      prose := { text := [] } }
    (extract (written { text := ['`', '`'] } [script, style])).plainScript = ['a', '`'] := by
  decide +kernel

end LivePreview.Document
