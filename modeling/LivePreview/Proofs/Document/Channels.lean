import LivePreview.Document.Bundle
import LivePreview.Proofs.Document.Fences
import LivePreview.Proofs.Text.Blank

/-!
# What blocks contribute

1. A block contributes its trimmed body, if anything is left of it, to the channel of its tag
   (`contribution?_eq_some_iff`).
2. The text of a channel is what the blocks contribute to it, in document order and joined by single
   line feeds (`get_extract`). Since no contribution is empty, a channel is empty exactly when
   nothing was contributed to it (`get_extract_eq_nil_iff`).
-/

namespace LivePreview.Document

/-- The tags of a channel, in lower case. -/
def Channel.tags : Channel → List (List Char)
  | .markup => ["html".toList]
  | .style => ["css".toList]
  | .plainScript => ["js".toList, "javascript".toList]
  | .typedScript => ["ts".toList, "typescript".toList]

/-- Bodies, each on a line of its own. -/
def joinLines (bodies : List (List Char)) : List Char := ['\n'].intercalate bodies

/-- What a block contributes to a channel. -/
def Block.contribution? (channel : Channel) (block : Block) : Option (List Char) :=
  if Channel.ofTag? block.tag = some channel ∧ Text.trim block.body ≠ [] then
    some (Text.trim block.body)
  else none

/-- What the blocks of a text contribute to a channel, in document order. -/
def contributions (text : List Char) (channel : Channel) : List (List Char) :=
  (blocks text).filterMap (Block.contribution? channel)

/-! ## Joining -/

section

variable {bodies more : List (List Char)} {body : List Char}

@[simp] theorem joinLines_nil : joinLines [] = [] := rfl

@[simp] theorem joinLines_singleton (body : List Char) : joinLines [body] = body :=
  List.intercalate_singleton

theorem joinLines_cons_of_ne_nil (h : bodies ≠ []) :
    joinLines (body :: bodies) = body ++ '\n' :: joinLines bodies := by
  obtain ⟨b, bs, rfl⟩ := List.exists_cons_of_ne_nil h
  rw [joinLines, List.intercalate_cons_cons, List.append_assoc]
  rfl

theorem joinLines_append (h : bodies ≠ []) (h' : more ≠ []) :
    joinLines (bodies ++ more) = joinLines bodies ++ '\n' :: joinLines more := by
  induction bodies with
  | nil => exact absurd rfl h
  | cons body bodies ih =>
    cases bodies with
    | nil => rw [List.singleton_append, joinLines_cons_of_ne_nil h', joinLines_singleton]
    | cons b bs =>
      have hrest := ih (List.cons_ne_nil b bs)
      rw [List.cons_append, joinLines_cons_of_ne_nil (by simp), hrest,
        joinLines_cons_of_ne_nil (List.cons_ne_nil b bs), List.append_assoc]
      rfl

/-- Where no body is empty, a join starts as its first body does. -/
theorem head?_joinLines (h : ∀ b ∈ body :: bodies, b ≠ []) :
    (joinLines (body :: bodies)).head? = body.head? := by
  obtain ⟨c, cs, rfl⟩ := List.exists_cons_of_ne_nil (h body List.mem_cons_self)
  cases bodies with
  | nil => rw [joinLines_singleton]
  | cons b bs => rw [joinLines_cons_of_ne_nil (List.cons_ne_nil b bs)]; rfl

theorem joinLines_eq_nil_iff (h : ∀ b ∈ bodies, b ≠ []) : joinLines bodies = [] ↔ bodies = [] := by
  cases bodies with
  | nil => exact iff_of_true rfl rfl
  | cons body bodies =>
    refine iff_of_false (fun hj => ?_) (List.cons_ne_nil _ _)
    have hhead := head?_joinLines h
    rw [hj] at hhead
    exact h body List.mem_cons_self (List.head?_eq_none_iff.mp hhead.symm)

/-- A line more is a body more. -/
theorem appendLine_joinLines (h : ∀ b ∈ bodies, b ≠ []) (body : List Char) :
    Bundle.appendLine (joinLines bodies) body = joinLines (bodies ++ [body]) := by
  unfold Bundle.appendLine
  by_cases hb : bodies = []
  · simp [hb]
  · rw [if_neg, joinLines_append hb (List.cons_ne_nil body []), joinLines_singleton]
    rw [List.isEmpty_iff, joinLines_eq_nil_iff h]
    exact hb

end

/-! ## Contributions -/

theorem Channel.ofTag?_eq_some_iff {tag : List Char} {channel : Channel} :
    Channel.ofTag? tag = some channel ↔ tag.map Char.toLower ∈ channel.tags := by
  unfold Channel.ofTag?
  constructor
  · intro h
    split at h <;> cases h <;> rename_i htag <;> rw [htag] <;> decide
  · intro h
    cases channel <;> simp only [tags, List.mem_cons, List.not_mem_nil, or_false] at h
    · rw [h]; rfl
    · rw [h]; rfl
    · rcases h with h | h <;> rw [h] <;> rfl
    · rcases h with h | h <;> rw [h] <;> rfl

/-- A block contributes to the channel of its tag its trimmed body, unless that is empty. -/
theorem contribution?_eq_some_iff {channel : Channel} {block : Block} {body : List Char} :
    block.contribution? channel = some body ↔
      block.tag.map Char.toLower ∈ channel.tags ∧ Text.Trimmed block.body body ∧ body ≠ [] := by
  rw [← Channel.ofTag?_eq_some_iff, ← Text.trim_eq_iff]
  unfold Block.contribution?
  constructor
  · intro h
    split at h
    · rename_i hc
      cases h
      exact ⟨hc.1, rfl, hc.2⟩
    · cases h
  · rintro ⟨htag, rfl, hne⟩
    exact if_pos ⟨htag, hne⟩

section

variable {text body : List Char} {channel : Channel}

theorem mem_contributions (h : body ∈ contributions text channel) :
    body ≠ [] ∧ ∀ c ∈ body.head?, Text.isBlank c = false := by
  obtain ⟨block, -, hb⟩ := List.mem_filterMap.mp h
  obtain ⟨-, htrim, hne⟩ := contribution?_eq_some_iff.mp hb
  exact ⟨hne, htrim.front⟩

end

namespace Bundle

theorem get_set (b : Bundle) (text : List Char) (channel other : Channel) :
    (b.set text channel).get other = if other = channel then text else b.get other := by
  cases channel <;> cases other <;> rfl

/-- A block adds a line to a channel if it contributes to it. -/
theorem get_push (b : Bundle) (block : Block) (channel : Channel) :
    (b.push block).get channel =
      match block.contribution? channel with
      | some body => appendLine (b.get channel) body
      | none => b.get channel := by
  unfold push Block.contribution?
  cases htag : Channel.ofTag? block.tag with
  | none => rfl
  | some own =>
    dsimp only
    by_cases hbody : Text.trim block.body = []
    · rw [if_pos (List.isEmpty_iff.mpr hbody), if_neg fun h => h.2 hbody]
    · rw [if_neg (by rwa [List.isEmpty_iff]), get_set]
      by_cases hown : channel = own
      · subst hown
        rw [if_pos rfl, if_pos ⟨rfl, hbody⟩]
      · rw [if_neg hown, if_neg fun h => hown (Option.some.inj h.1).symm]

end Bundle

/-- The text of a channel is the join of what is contributed to it. -/
theorem get_foldl_push (bs : List Block) (channel : Channel) :
    (bs.foldl Bundle.push .empty).get channel =
      joinLines (bs.filterMap (Block.contribution? channel)) := by
  -- the last block is the last one to be pushed
  induction hn : bs.length generalizing bs with
  | zero =>
    rw [List.length_eq_zero_iff.mp hn]
    cases channel <;> rfl
  | succ n ih =>
    obtain ⟨bs, block, rfl⟩ := (List.eq_nil_or_concat bs).resolve_left (by rintro rfl; cases hn)
    rw [List.concat_eq_append] at hn ⊢
    rw [List.length_append, List.length_singleton, Nat.add_right_cancel_iff] at hn
    have hne : ∀ body ∈ bs.filterMap (Block.contribution? channel), body ≠ [] := by
      intro body hmem
      obtain ⟨block, -, hb⟩ := List.mem_filterMap.mp hmem
      exact (contribution?_eq_some_iff.mp hb).2.2
    rw [List.foldl_append, List.foldl_cons, List.foldl_nil, Bundle.get_push, ih bs hn,
      List.filterMap_append]
    cases hc : block.contribution? channel with
    | none => rw [List.filterMap_cons_none hc, List.filterMap_nil, List.append_nil]
    | some body =>
      rw [List.filterMap_cons_some hc, List.filterMap_nil]
      exact appendLine_joinLines hne body

theorem get_extract (text : List Char) (channel : Channel) :
    (extract text).get channel = joinLines (contributions text channel) :=
  get_foldl_push (blocks text) channel

theorem get_extract_eq_nil_iff {text : List Char} {channel : Channel} :
    (extract text).get channel = [] ↔ contributions text channel = [] := by
  rw [get_extract, joinLines_eq_nil_iff fun body h => (mem_contributions h).1]

/-- A bundle is empty if each of its channels is. -/
theorem Bundle.isEmpty_iff {b : Bundle} : b.isEmpty = true ↔ ∀ channel, b.get channel = [] := by
  simp only [isEmpty, Bool.and_eq_true, List.isEmpty_iff]
  constructor
  · rintro ⟨⟨⟨hm, hs⟩, hp⟩, ht⟩ channel
    cases channel <;> assumption
  · intro h
    exact ⟨⟨⟨h .markup, h .style⟩, h .plainScript⟩, h .typedScript⟩

/-! ## The main theorem -/

/-- **What is read off a text.**

1. The blocks that are read are those of the scan from the start of the text, and there is no other
   scan.
2. A block contributes its trimmed body, if it is not empty, to the channel one of whose tags is its
   own in lower case.
3. The text of a channel is what the blocks contribute to it, in document order, joined by line
   feeds.
4. The bundle is empty exactly when no block contributes to any channel. -/
theorem extract_reads_fences (text : List Char) :
    (∀ bs, Scan text 0 bs ↔ bs = blocks text) ∧
    (∀ block channel body, Block.contribution? channel block = some body ↔
      block.tag.map Char.toLower ∈ channel.tags ∧ Text.Trimmed block.body body ∧ body ≠ []) ∧
    (∀ channel, (extract text).get channel =
      joinLines ((blocks text).filterMap (Block.contribution? channel))) ∧
    ((extract text).isEmpty = true ↔
      ∀ block ∈ blocks text, ∀ channel, Block.contribution? channel block = none) := by
  refine ⟨fun bs => scan_iff, fun block channel body => contribution?_eq_some_iff,
    get_extract text, ?_⟩
  rw [Bundle.isEmpty_iff]
  constructor
  · intro h block hmem channel
    exact List.filterMap_eq_nil_iff.mp (get_extract_eq_nil_iff.mp (h channel)) block hmem
  · intro h channel
    exact get_extract_eq_nil_iff.mpr (List.filterMap_eq_nil_iff.mpr fun b hb => h b hb channel)

end LivePreview.Document
