import LivePreview.Text.Blank

/-!
# Tagged fences

A block is three backticks, a tag of word characters, line ends, a body and three backticks.

1. `blockAt` reads a block at the start of a text: the tag and the line ends are taken as far as
   they go, the body ends at the first three backticks behind them.
2. `blocks` takes the leftmost block and goes on behind its closing fence.
-/

namespace LivePreview.Document

/-- A tagged block as it stands in the document. -/
structure Block where
  tag : List Char
  body : List Char
deriving DecidableEq, Repr

/-- A character of a tag: an ASCII letter, an ASCII digit or the underscore. -/
def isTagChar (c : Char) : Bool := c.isAlphanum || c == '_'

/-- A character that ends a line for a fence. -/
def isLineEnd (c : Char) : Bool := c == '\r' || c == '\n'

/-- The text behind three backticks, if it starts with them. -/
def fence? : List Char → Option (List Char)
  | '`' :: '`' :: '`' :: rest => some rest
  | _ => none

/-- The text before the first three backticks and the text behind them. -/
def splitAtFence : List Char → Option (List Char × List Char)
  | [] => none
  | c :: cs =>
    match fence? (c :: cs) with
    | some rest => some ([], rest)
    | none => (splitAtFence cs).map fun (body, rest) => (c :: body, rest)

/-- The block at the start of a text and the text behind it. -/
def blockAt (cs : List Char) : Option (Block × List Char) :=
  match fence? cs with
  | none => none
  | some afterOpen =>
    let tag := afterOpen.takeWhile isTagChar
    let afterTag := afterOpen.dropWhile isTagChar
    let lineEnds := afterTag.takeWhile isLineEnd
    if tag.isEmpty || lineEnds.isEmpty then none
    else (splitAtFence (afterTag.dropWhile isLineEnd)).map fun (body, rest) => (⟨tag, body⟩, rest)

theorem fence?_length {cs rest : List Char} (h : fence? cs = some rest) :
    rest.length < cs.length := by
  unfold fence? at h
  split at h
  · cases h; simp; omega
  · cases h

theorem splitAtFence_length {cs body rest : List Char} (h : splitAtFence cs = some (body, rest)) :
    rest.length < cs.length := by
  induction cs generalizing body with
  | nil => simp [splitAtFence] at h
  | cons c cs ih =>
    unfold splitAtFence at h
    split at h
    · next hf => cases h; exact fence?_length hf
    · cases hs : splitAtFence cs with
      | none => simp [hs] at h
      | some p =>
        obtain ⟨body', rest'⟩ := p
        simp only [hs, Option.map_some, Option.some.injEq, Prod.mk.injEq] at h
        have := @ih body' (by rw [hs, h.2])
        simp; omega

theorem blockAt_length {cs rest : List Char} {b : Block} (h : blockAt cs = some (b, rest)) :
    rest.length < cs.length := by
  unfold blockAt at h
  split at h
  · cases h
  · next afterOpen hf =>
    dsimp only at h
    split at h
    · cases h
    · rw [Option.map_eq_some_iff] at h
      obtain ⟨⟨body, rest'⟩, hs, he⟩ := h
      obtain rfl : rest' = rest := congrArg Prod.snd he
      have h1 := fence?_length hf
      have h2 := splitAtFence_length hs
      have h3 := (List.dropWhile_suffix (l := afterOpen.dropWhile isTagChar) isLineEnd).length_le
      have h4 := (List.dropWhile_suffix (l := afterOpen) isTagChar).length_le
      omega

/-- The blocks of a text, in document order. -/
def blocks : List Char → List Block
  | [] => []
  | c :: cs =>
    match _h : blockAt (c :: cs) with
    | some (block, rest) => block :: blocks rest
    | none => blocks cs
termination_by cs => cs.length
decreasing_by
  · exact blockAt_length _h
  · simp

end LivePreview.Document
