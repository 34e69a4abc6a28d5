import LivePreview.Text.Blank

/-!
# Trimming

Trimming takes the longest blank ends off a text: what is left is the one part of it that neither
starts nor ends with a blank character and has blank characters only around it (`trim_eq_iff`).
-/

namespace LivePreview.Text

/-- A text is a body with blank characters around it, and the body has none at its ends. -/
structure Trimmed (cs body : List Char) : Prop where
  text : ∃ before behind, cs = before ++ (body ++ behind) ∧ (∀ c ∈ before, isBlank c = true) ∧
    ∀ c ∈ behind, isBlank c = true
  front : ∀ c ∈ body.head?, isBlank c = false
  back : ∀ c ∈ body.getLast?, isBlank c = false

variable {cs body : List Char}

/-- What is left of a text without its leading blank characters starts with none. -/
theorem head?_dropWhile_isBlank (cs : List Char) :
    ∀ c ∈ (cs.dropWhile isBlank).head?, isBlank c = false := by
  intro c hc
  have h := List.head?_dropWhile_not isBlank cs
  rw [Option.mem_def.mp hc] at h
  exact h

/-- A text that starts with no blank character has none to drop. -/
theorem dropWhile_isBlank_eq_self (h : ∀ c ∈ cs.head?, isBlank c = false) :
    cs.dropWhile isBlank = cs := by
  cases cs with
  | nil => rfl
  | cons c cs => exact List.dropWhile_cons_of_neg (by rw [h c rfl]; decide)

/-- A text falls into what trimming on the right leaves and blank characters. -/
theorem trimRight_append (cs : List Char) :
    ∃ behind, cs = trimRight cs ++ behind ∧ ∀ c ∈ behind, isBlank c = true := by
  refine ⟨(cs.reverse.takeWhile isBlank).reverse, ?_, fun c hc => ?_⟩
  · rw [trimRight, ← List.reverse_append, List.takeWhile_append_dropWhile, List.reverse_reverse]
  · exact List.all_eq_true.mp List.all_takeWhile c (List.mem_reverse.mp hc)

theorem trim_trimmed (cs : List Char) : Trimmed cs (trim cs) := by
  obtain ⟨behind, hm, hbehind⟩ := trimRight_append (cs.dropWhile isBlank)
  refine ⟨⟨cs.takeWhile isBlank, behind, ?_, List.all_eq_true.mp List.all_takeWhile, hbehind⟩, ?_,
    ?_⟩
  · rw [trim, ← hm, List.takeWhile_append_dropWhile]
  · -- the first character left on the right is the first one left on the left
    intro c hc
    refine head?_dropWhile_isBlank cs c ?_
    rw [hm, List.head?_append, show (trimRight _).head? = some c from hc]
    rfl
  · intro c hc
    rw [trim, trimRight, List.getLast?_reverse] at hc
    exact head?_dropWhile_isBlank _ c hc

/-- Trimming a text leaves its one trimmed body. -/
theorem trim_eq_iff : trim cs = body ↔ Trimmed cs body := by
  refine ⟨fun h => h ▸ trim_trimmed cs, fun ⟨⟨before, behind, hcs, hbefore, hbehind⟩, hfront, hback⟩
    => ?_⟩
  rw [trim, hcs, List.dropWhile_append_of_pos hbefore]
  cases body with
  | nil =>
    rw [List.nil_append, ← List.append_nil behind, List.dropWhile_append_of_pos hbehind]
    rfl
  | cons c body =>
    have hleft : (c :: body ++ behind).dropWhile isBlank = c :: body ++ behind :=
      dropWhile_isBlank_eq_self hfront
    rw [hleft, trimRight, List.reverse_append,
      List.dropWhile_append_of_pos fun c hc => hbehind c (List.mem_reverse.mp hc),
      dropWhile_isBlank_eq_self (by rwa [List.head?_reverse]), List.reverse_reverse]

/-- Blank characters around a text change nothing of its trimmed body. -/
theorem Trimmed.around {before behind : List Char} (h : Trimmed cs body)
    (hbefore : ∀ c ∈ before, isBlank c = true) (hbehind : ∀ c ∈ behind, isBlank c = true) :
    Trimmed (before ++ (cs ++ behind)) body := by
  obtain ⟨⟨left, right, rfl, hleft, hright⟩, hfront, hback⟩ := h
  refine ⟨⟨before ++ left, right ++ behind, by simp only [List.append_assoc], ?_, ?_⟩, hfront,
    hback⟩
  · intro c hc
    exact (List.mem_append.mp hc).elim (hbefore c) (hleft c)
  · intro c hc
    exact (List.mem_append.mp hc).elim (hright c) (hbehind c)

/-- Trimming does not see blank characters around a text. -/
theorem trim_around {before behind : List Char} (hbefore : ∀ c ∈ before, isBlank c = true)
    (hbehind : ∀ c ∈ behind, isBlank c = true) : trim (before ++ (cs ++ behind)) = trim cs :=
  trim_eq_iff.mpr ((trim_trimmed cs).around hbefore hbehind)

/-- A text that starts with no blank character is blank only if it is empty. -/
theorem isAllBlank_iff_of_head? (h : ∀ c ∈ cs.head?, isBlank c = false) :
    isAllBlank cs = true ↔ cs = [] := by
  rw [isAllBlank, List.isEmpty_iff, trim_eq_iff]
  constructor
  · rintro ⟨⟨before, behind, hcs, hbefore, hbehind⟩, -, -⟩
    rw [List.nil_append] at hcs
    cases cs with
    | nil => rfl
    | cons c cs =>
      have hblank : isBlank c = true := by
        have hmem : c ∈ before ++ behind := hcs ▸ List.mem_cons_self
        exact (List.mem_append.mp hmem).elim (hbefore c) (hbehind c)
      rw [h c rfl] at hblank
      cases hblank
  · rintro rfl
    exact trim_eq_iff.mp rfl

end LivePreview.Text
