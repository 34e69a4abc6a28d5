import LivePreview.Document.Fence

/-!
# The fences of a text

What reading blocks comes to, said by positions of the text.

1. `Opens cs block rest`: a text starts with three backticks, a run of tag characters and a run of
   line ends, each as long as it can be, a body that goes up to the first three backticks behind
   them, and those. `blockAt` finds exactly that (`blockAt_eq_some_iff`).
2. `Scan text p bs`: from `p` on, the next block starts at the least position where one opens, and
   the scan goes on behind its closing fence until none opens any more.
3. A text has one scan, and `blocks` is it (`scan_iff`).
-/

namespace LivePreview.Document

/-- What opens and closes a block. -/
def fence : List Char := ['`', '`', '`']

/-- A text starts with a run of characters of a class that is as long as it can be and not empty. -/
structure Run (p : Char → Bool) (cs run rest : List Char) : Prop where
  text : cs = run ++ rest
  nonempty : run ≠ []
  all : ∀ c ∈ run, p c = true
  maximal : ∀ c ∈ rest.head?, p c = false

/-- A text goes up to its first three backticks, and on behind them. -/
structure UpToFence (cs body rest : List Char) : Prop where
  text : cs = body ++ (fence ++ rest)
  first : ∀ n < body.length, ¬ fence <+: cs.drop n

/-- A block stands at the start of a text, in front of the rest. -/
def Opens (cs : List Char) (block : Block) (rest : List Char) : Prop :=
  ∃ behindFence behindTag lineEnds behindEnds,
    cs = fence ++ behindFence ∧ Run isTagChar behindFence block.tag behindTag ∧
      Run isLineEnd behindTag lineEnds behindEnds ∧ UpToFence behindEnds block.body rest

/-- A block of a text stands between two positions. -/
def Stands (text : List Char) (start : Nat) (block : Block) (stop : Nat) : Prop :=
  stop ≤ text.length ∧ Opens (text.drop start) block (text.drop stop)

/-- The blocks that are met from a position on, each at the first place where one opens. -/
inductive Scan (text : List Char) : Nat → List Block → Prop where
  | done (p : Nat) (hnone : ∀ s ≥ p, ∀ block stop, ¬ Stands text s block stop) : Scan text p []
  | block (p s stop : Nat) (block : Block) (blocks : List Block) (hle : p ≤ s)
      (hfirst : ∀ s', p ≤ s' → s' < s → ∀ block stop, ¬ Stands text s' block stop)
      (hstands : Stands text s block stop) (hrest : Scan text stop blocks) :
      Scan text p (block :: blocks)

/-! ## Runs -/

section

variable {p : Char → Bool} {cs run rest : List Char}

/-- A run is what is taken while the class lasts. -/
theorem Run.eq_takeWhile (h : Run p cs run rest) :
    cs.takeWhile p = run ∧ cs.dropWhile p = rest := by
  obtain ⟨rfl, -, hall, hmax⟩ := h
  rw [List.takeWhile_append_of_pos hall, List.dropWhile_append_of_pos hall]
  cases rest with
  | nil => exact ⟨List.append_nil _, rfl⟩
  | cons c rest =>
    have hc : p c = false := hmax c rfl
    rw [List.takeWhile_cons_of_neg (by rw [hc]; decide), List.append_nil,
      List.dropWhile_cons_of_neg (by rw [hc]; decide)]
    exact ⟨rfl, rfl⟩

/-- Taking while the class lasts takes a run, if it takes anything. -/
theorem run_iff :
    Run p cs run rest ↔ cs.takeWhile p = run ∧ cs.dropWhile p = rest ∧ run ≠ [] := by
  constructor
  · intro h
    exact ⟨h.eq_takeWhile.1, h.eq_takeWhile.2, h.nonempty⟩
  · rintro ⟨rfl, rfl, hne⟩
    refine ⟨List.takeWhile_append_dropWhile.symm, hne, ?_, fun c hc => ?_⟩
    · exact List.all_eq_true.mp List.all_takeWhile
    · have hmax := List.head?_dropWhile_not p cs
      rw [Option.mem_def.mp hc] at hmax
      exact hmax

end

/-! ## Fences -/

theorem fence?_eq_some_iff {cs rest : List Char} : fence? cs = some rest ↔ cs = fence ++ rest := by
  unfold fence?
  split
  · simp [fence]
  · rename_i hne
    constructor
    · intro h
      cases h
    · intro h
      exact absurd h (hne rest)

theorem fence?_eq_none_iff {cs : List Char} : fence? cs = none ↔ ¬ fence <+: cs := by
  constructor
  · rintro h ⟨rest, hrest⟩
    rw [fence?_eq_some_iff.mpr hrest.symm] at h
    cases h
  · intro h
    cases hf : fence? cs with
    | none => rfl
    | some rest => exact absurd ⟨rest, (fence?_eq_some_iff.mp hf).symm⟩ h

/-- Splitting at the first fence splits there. -/
theorem splitAtFence_eq_some_iff {cs body rest : List Char} :
    splitAtFence cs = some (body, rest) ↔ UpToFence cs body rest := by
  induction cs generalizing body with
  | nil =>
    constructor
    · intro h
      cases h
    · rintro ⟨htext, -⟩
      simp [fence] at htext
  | cons c cs ih =>
    unfold splitAtFence
    cases hf : fence? (c :: cs) with
    | some behind =>
      have hcs := fence?_eq_some_iff.mp hf
      constructor
      · intro h
        cases h
        exact ⟨hcs, fun n hn => absurd hn (Nat.not_lt_zero n)⟩
      · rintro ⟨htext, hfirst⟩
        cases body with
        | nil =>
          rw [hcs, List.nil_append, List.append_cancel_left_eq] at htext
          rw [htext]
        | cons b body =>
          exact absurd ⟨behind, hcs.symm⟩ (hfirst 0 (Nat.succ_pos _))
    | none =>
      have hnone := fence?_eq_none_iff.mp hf
      constructor
      · intro h
        obtain ⟨⟨before, behind⟩, hsplit, he⟩ := Option.map_eq_some_iff.mp h
        cases he
        obtain ⟨htext, hfirst⟩ := ih.mp hsplit
        refine ⟨congrArg (c :: ·) htext, fun n hn => ?_⟩
        cases n with
        | zero => exact hnone
        | succ n => exact hfirst n (Nat.lt_of_succ_lt_succ hn)
      · rintro ⟨htext, hfirst⟩
        cases body with
        | nil => exact absurd ⟨rest, htext.symm⟩ hnone
        | cons b body =>
          obtain ⟨rfl, htail⟩ := List.cons.inj htext
          have hsplit := ih.mpr ⟨htail, fun n hn => hfirst (n + 1) (Nat.succ_lt_succ hn)⟩
          rw [hsplit]
          rfl

/-- A block is read at the start of a text exactly when one stands there. -/
theorem blockAt_eq_some_iff {cs rest : List Char} {block : Block} :
    blockAt cs = some (block, rest) ↔ Opens cs block rest := by
  unfold blockAt Opens
  cases hf : fence? cs with
  | none =>
    constructor
    · intro h
      cases h
    · rintro ⟨behind, -, -, -, rfl, -⟩
      exact absurd ⟨behind, rfl⟩ (fence?_eq_none_iff.mp hf)
  | some behind =>
    have hcs := fence?_eq_some_iff.mp hf
    dsimp only
    constructor
    · intro h
      split at h
      · cases h
      · rename_i hne
        rw [Bool.or_eq_true, List.isEmpty_iff, List.isEmpty_iff, not_or] at hne
        obtain ⟨⟨body, rest'⟩, hsplit, he⟩ := Option.map_eq_some_iff.mp h
        cases he
        exact ⟨behind, _, _, _, hcs, run_iff.mpr ⟨rfl, rfl, hne.1⟩, run_iff.mpr ⟨rfl, rfl, hne.2⟩,
          splitAtFence_eq_some_iff.mp hsplit⟩
    · rintro ⟨behind', behindTag, lineEnds, behindEnds, htext, htag, hends, hbody⟩
      obtain rfl : behind = behind' := List.append_cancel_left (hcs.symm.trans htext)
      rw [htag.eq_takeWhile.1, htag.eq_takeWhile.2, hends.eq_takeWhile.1, hends.eq_takeWhile.2,
        splitAtFence_eq_some_iff.mpr hbody, if_neg]
      · rfl
      · rw [Bool.or_eq_true, List.isEmpty_iff, List.isEmpty_iff, not_or]
        exact ⟨htag.nonempty, hends.nonempty⟩

/-! ## Scanning -/

section

variable {text rest : List Char} {p s : Nat} {block : Block} {bs : List Block}

/-- What a block leaves of a text is what stands behind it. -/
theorem Opens.suffix {cs : List Char} (h : Opens cs block rest) : rest <:+ cs := by
  obtain ⟨behind, behindTag, lineEnds, behindEnds, hcs, htag, hends, hbody⟩ := h
  have h₁ : rest <:+ behindEnds := ⟨block.body ++ fence, by rw [hbody.text, List.append_assoc]⟩
  have h₂ : behindEnds <:+ behindTag := ⟨lineEnds, hends.text.symm⟩
  have h₃ : behindTag <:+ behind := ⟨block.tag, htag.text.symm⟩
  exact ((h₁.trans h₂).trans h₃).trans ⟨fence, hcs.symm⟩

/-- Where a block opens, one stands. -/
theorem Opens.stands (h : Opens (text.drop s) block rest) :
    ∃ stop, Stands text s block stop ∧ text.drop stop = rest := by
  obtain ⟨front, hfront⟩ := h.suffix.trans (List.drop_suffix s text)
  have hdrop : text.drop front.length = rest := by
    rw [← hfront, List.drop_left]
  refine ⟨front.length, ⟨?_, hdrop.symm ▸ h⟩, hdrop⟩
  rw [← hfront, List.length_append]
  exact Nat.le_add_right _ _

/-- One block at most stands at a position. -/
theorem Stands.unique {block' : Block} {stop stop' : Nat} (h : Stands text s block stop)
    (h' : Stands text s block' stop') : block = block' ∧ stop = stop' := by
  have he := (blockAt_eq_some_iff.mpr h.2).symm.trans (blockAt_eq_some_iff.mpr h'.2)
  obtain ⟨hblock, hdrop⟩ := Prod.mk.inj (Option.some.inj he)
  have hlength := congrArg List.length hdrop
  rw [List.length_drop, List.length_drop] at hlength
  have hle := h.1
  have hle' := h'.1
  exact ⟨hblock, by omega⟩

/-- Where no block is read, none stands. -/
theorem not_stands_of_blockAt (h : blockAt (text.drop s) = none) (block : Block) (stop : Nat) :
    ¬ Stands text s block stop := by
  intro hs
  rw [blockAt_eq_some_iff.mpr hs.2] at h
  cases h

/-- A position where no block stands may be passed over. -/
theorem Scan.skip (hnone : ∀ block stop, ¬ Stands text p block stop) (h : Scan text (p + 1) bs) :
    Scan text p bs := by
  have hpassed : ∀ s ≥ p, s < p + 1 → ∀ block stop, ¬ Stands text s block stop := by
    intro s hge hlt
    obtain rfl : s = p := Nat.le_antisymm (Nat.le_of_lt_succ hlt) hge
    exact hnone
  cases h with
  | done _ hrest =>
    refine .done p fun s hge => ?_
    by_cases hs : s < p + 1
    · exact hpassed s hge hs
    · exact hrest s (Nat.le_of_not_lt hs)
  | block _ s stop block blocks hle hfirst hstands hrest =>
    refine .block p s stop block blocks (Nat.le_of_succ_le hle) (fun s' hge hlt => ?_) hstands hrest
    by_cases hs : s' < p + 1
    · exact hpassed s' hge hs
    · exact hfirst s' (Nat.le_of_not_lt hs) hlt

/-- Of two positions where a block stands, neither before the other, each is the first. -/
theorem eq_of_first {s' stop stop' : Nat} {block' : Block} (hle : p ≤ s) (hle' : p ≤ s')
    (hfirst : ∀ t, p ≤ t → t < s → ∀ block stop, ¬ Stands text t block stop)
    (hfirst' : ∀ t, p ≤ t → t < s' → ∀ block stop, ¬ Stands text t block stop)
    (h : Stands text s block stop) (h' : Stands text s' block' stop') : s = s' := by
  rcases Nat.lt_trichotomy s s' with hlt | heq | hgt
  · exact absurd h (hfirst' s hle hlt block stop)
  · exact heq
  · exact absurd h' (hfirst s' hle' hgt block' stop')

/-- A text has one scan from a position on. -/
theorem Scan.unique {bs' : List Block} (h : Scan text p bs) (h' : Scan text p bs') : bs = bs' := by
  induction h generalizing bs' with
  | done p hnone =>
    cases h' with
    | done => rfl
    | block _ s stop block blocks hle _ hstands _ => exact absurd hstands (hnone s hle block stop)
  | block p s stop block blocks hle hfirst hstands _ ih =>
    cases h' with
    | done _ hnone => exact absurd hstands (hnone s hle block stop)
    | block _ s' stop' block' blocks' hle' hfirst' hstands' hrest' =>
      obtain rfl := eq_of_first hle hle' hfirst hfirst' hstands hstands'
      obtain ⟨rfl, rfl⟩ := hstands.unique hstands'
      rw [ih hrest']

/-- Reading blocks scans the text. -/
theorem scan_blocks (text : List Char) (p : Nat) : Scan text p (blocks (text.drop p)) := by
  -- what is left to scan is shorter behind a block, and behind a character where none stands
  induction hn : (text.drop p).length using Nat.strongRecOn generalizing p with
  | ind n ih =>
    have hstep : ∀ q, (text.drop q).length < n → Scan text q (blocks (text.drop q)) :=
      fun q hq => ih _ hq q rfl
    clear ih
    cases hcs : text.drop p with
    | nil =>
      rw [blocks]
      refine .done p fun s hge => not_stands_of_blockAt ?_
      have hle := List.drop_eq_nil_iff.mp hcs
      rw [List.drop_eq_nil_iff.mpr (Nat.le_trans hle hge)]
      rfl
    | cons c cs =>
      rw [blocks]
      split
      · rename_i block rest hb
        have hlength := blockAt_length hb
        rw [blockAt_eq_some_iff, ← hcs] at hb
        obtain ⟨stop, hstands, hdrop⟩ := hb.stands
        refine .block p p stop block _ (Nat.le_refl p) (fun s hge hlt => ?_) hstands ?_
        · exact absurd hlt (Nat.not_lt_of_le hge)
        · rw [← hdrop]
          refine hstep stop ?_
          rw [hdrop, ← hn, hcs]
          exact hlength
      · rename_i hb
        have htail : text.drop (p + 1) = cs := by
          rw [← List.tail_drop, hcs]
          rfl
        refine .skip (not_stands_of_blockAt (hcs ▸ hb)) ?_
        rw [← htail]
        refine hstep (p + 1) ?_
        rw [htail, ← hn, hcs]
        exact Nat.lt_succ_self _

/-- The scan of a text is the reading of its blocks. -/
theorem scan_iff : Scan text p bs ↔ bs = blocks (text.drop p) :=
  ⟨fun h => h.unique (scan_blocks text p), fun h => h ▸ scan_blocks text p⟩

end

end LivePreview.Document
