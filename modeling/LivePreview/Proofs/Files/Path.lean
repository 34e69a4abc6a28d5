import LivePreview.Files.Path

/-!
# Steps of a path

1. Cutting a text at its slashes respects the slashes (`splitSlash_append_slash`), so that the steps
   of a path with a name below it are those of the path and one more (`steps_join`).
2. Steps and components of a path are the same but for the dots (`undotted_steps`).
-/

namespace LivePreview.Files

/-- Steps without the dots. -/
def undotted (cs : List Component) : List Component := cs.filter (· != .here)

theorem undotted_cons_here (cs : List Component) : undotted (.here :: cs) = undotted cs := rfl

theorem undotted_cons {c : Component} (hc : c ≠ .here) (cs : List Component) :
    undotted (c :: cs) = c :: undotted cs := List.filter_cons_of_pos (bne_iff_ne.mpr hc)

namespace Path

/-! ## Slashes -/

theorem splitSlash_ne_nil (cs : List Char) : splitSlash cs ≠ [] := by
  cases cs with
  | nil => exact List.cons_ne_nil _ _
  | cons c cs =>
    rw [splitSlash.eq_def]
    split
    · exact List.cons_ne_nil _ _
    · exact List.cons_ne_nil _ _
    · split <;> exact List.cons_ne_nil _ _

/-- A character that is no slash belongs to the first part. -/
theorem splitSlash_cons {c : Char} (hc : c ≠ '/') {cs part : List Char} {parts : List (List Char)}
    (h : splitSlash cs = part :: parts) : splitSlash (c :: cs) = (c :: part) :: parts := by
  rw [splitSlash.eq_3 c cs hc, h]

theorem splitSlash_append_slash (as bs : List Char) :
    splitSlash (as ++ '/' :: bs) = splitSlash as ++ splitSlash bs := by
  induction as with
  | nil => rfl
  | cons c as ih =>
    by_cases hc : c = '/'
    · subst hc
      exact congrArg ([] :: ·) ih
    · obtain ⟨part, parts, hp⟩ := List.exists_cons_of_ne_nil (splitSlash_ne_nil as)
      rw [hp] at ih
      rw [List.cons_append, splitSlash_cons hc ih, splitSlash_cons hc hp]
      rfl

theorem splitSlash_of_not_mem {cs : List Char} (h : '/' ∉ cs) : splitSlash cs = [cs] := by
  induction cs with
  | nil => rfl
  | cons c cs ih =>
    rw [List.mem_cons, not_or] at h
    exact splitSlash_cons (Ne.symm h.1) (ih h.2)

/-! ## Steps and components -/

/-- The step that a part of a path tells to take. -/
def step (part : List Char) : Component := (component? part).getD .here

/-- The steps that the parts of a path tell to take. -/
def partSteps (parts : List (List Char)) : List Component := (parts.filter (!·.isEmpty)).map step

theorem partSteps_append (parts parts' : List (List Char)) :
    partSteps (parts ++ parts') = partSteps parts ++ partSteps parts' := by
  rw [partSteps, List.filter_append, List.map_append]
  rfl

theorem steps_eq (path : List Char) : steps path =
    (if path.head? == some '/' then [.root] else []) ++ partSteps (splitSlash path) := rfl

theorem component?_ne_here {part : List Char} : component? part ≠ some .here := by
  unfold component?
  split <;> simp

/-- Parts that are no component are dots, or nothing. -/
theorem undotted_partSteps (parts : List (List Char)) :
    undotted (partSteps parts) = parts.filterMap component? := by
  unfold partSteps
  induction parts with
  | nil => rfl
  | cons part parts ih =>
    cases hc : component? part with
    | none =>
      rw [List.filterMap_cons_none hc, ← ih]
      cases part with
      | nil => rfl
      | cons c cs =>
        have hs : step (c :: cs) = .here := by rw [step, hc, Option.getD_none]
        rw [List.filter_cons_of_pos rfl, List.map_cons, hs, undotted_cons_here]
    | some d =>
      have hd : d ≠ .here := fun he => component?_ne_here (he ▸ hc)
      have hs : step part = d := by rw [step, hc, Option.getD_some]
      cases part with
      | nil => cases hc
      | cons c cs =>
        rw [List.filterMap_cons_some hc, ← ih, List.filter_cons_of_pos rfl, List.map_cons, hs,
          undotted_cons hd]

theorem undotted_filterMap_component? (parts : List (List Char)) :
    undotted (parts.filterMap component?) = parts.filterMap component? := by
  refine List.filter_eq_self.mpr fun d hd => bne_iff_ne.mpr fun he => ?_
  obtain ⟨part, -, hp⟩ := List.mem_filterMap.mp hd
  exact component?_ne_here (he ▸ hp)

/-- The front of the components of a path is the root exactly if the path starts with a slash. -/
theorem undotted_components (path : List Char) : undotted (components path) =
    (if path.head? == some '/' then [.root] else []) ++ (splitSlash path).filterMap component? := by
  unfold components
  cases path with
  | nil => rfl
  | cons c cs =>
    by_cases hc : c = '/'
    · subst hc
      obtain ⟨part, parts, hp⟩ := List.exists_cons_of_ne_nil (splitSlash_ne_nil cs)
      have hs : splitSlash ('/' :: cs) = [] :: part :: parts := congrArg ([] :: ·) hp
      rw [hs]
      exact congrArg (Component.root :: ·) (undotted_filterMap_component? _)
    · obtain ⟨part, parts, hp⟩ := List.exists_cons_of_ne_nil (splitSlash_ne_nil cs)
      have hhead : ((c :: cs).head? == some '/') = false := beq_false_of_ne (by simpa using hc)
      rw [splitSlash_cons hc hp, hhead]
      have hrest := undotted_filterMap_component? ((c :: part) :: parts)
      dsimp only
      split
      · rename_i he
        cases he
      · exact hrest
      · exact hrest

theorem undotted_steps (path : List Char) : undotted (steps path) = undotted (components path) := by
  rw [undotted_components, steps_eq, ← undotted_partSteps]
  by_cases hh : (path.head? == some '/') = true
  · rw [if_pos hh]
    rfl
  · rw [if_neg hh]
    rfl

/-! ## A name below a path -/

/-- A text that can be the name of a file. -/
def IsName (name : List Char) : Prop := '/' ∉ name ∧ component? name = some (.name name)

theorem IsName.ne_nil {name : List Char} (h : IsName name) : name ≠ [] := by
  rintro rfl
  cases h.2

theorem IsName.head?_ne {name : List Char} (h : IsName name) : name.head? ≠ some '/' :=
  fun he => h.1 (List.mem_of_head? he)

/-- The step that a name is. -/
theorem partSteps_name {name : List Char} (h : IsName name) : partSteps [name] = [.name name] := by
  have hempty : (!name.isEmpty) = true := by
    rw [List.isEmpty_eq_false_iff.mpr h.ne_nil]
    rfl
  have hstep : step name = .name name := by rw [step, h.2, Option.getD_some]
  rw [partSteps, List.filter_cons, if_pos hempty, List.map_cons, hstep]
  rfl

theorem steps_of_isName {name : List Char} (h : IsName name) : steps name = [.name name] := by
  have hhead : (name.head? == some '/') = false := beq_false_of_ne h.head?_ne
  rw [steps_eq, splitSlash_of_not_mem h.1, partSteps_name h, hhead]
  rfl

/-- A name behind a slash is one step more. -/
theorem steps_append_slash (path : List Char) {name : List Char} (h : IsName name) :
    steps (path ++ '/' :: name) = steps (path ++ ['/']) ++ [.name name] := by
  have hhead : (path ++ '/' :: name).head? = (path ++ ['/']).head? := by cases path <;> rfl
  rw [steps_eq, steps_eq, hhead, splitSlash_append_slash, splitSlash_append_slash,
    partSteps_append, partSteps_append, splitSlash_of_not_mem h.1, partSteps_name h]
  simp [splitSlash, partSteps]

/-- A slash at the end of a path is no step. -/
theorem steps_append_slash_nil {path : List Char} (hp : path ≠ []) :
    steps (path ++ ['/']) = steps path := by
  have hhead : (path ++ ['/']).head? = path.head? := by
    cases path with
    | nil => exact absurd rfl hp
    | cons c cs => rfl
  rw [steps_eq, steps_eq, hhead, splitSlash_append_slash, partSteps_append]
  simp [splitSlash, partSteps]

theorem toList_join (path : String) {name : String} (h : IsName name.toList) :
    (join path name).toList =
      if path.isEmpty then name.toList
      else if path.toList.getLast? = some '/' then path.toList ++ name.toList
      else path.toList ++ '/' :: name.toList := by
  have hhead : (name.toList.head? == some '/') = false := beq_false_of_ne h.head?_ne
  rw [join, hhead, Bool.or_false]
  by_cases hp : path.isEmpty = true
  · rw [if_pos hp, if_pos hp]
  · rw [if_neg hp, if_neg hp]
    by_cases hl : path.toList.getLast? = some '/'
    · rw [if_pos hl, if_pos (beq_iff_eq.mpr hl), String.toList_append]
    · rw [if_neg hl, if_neg (fun hb => hl (beq_iff_eq.mp hb))]
      simp

/-- A name below a path is one step more. -/
theorem steps_join (path : String) {name : String} (h : IsName name.toList) :
    steps (join path name).toList = steps path.toList ++ [.name name.toList] := by
  rw [toList_join path h]
  by_cases hp : path.isEmpty = true
  · have hnil : path.toList = [] := by simpa using hp
    rw [if_pos hp, hnil, steps_of_isName h]
    rfl
  · rw [if_neg hp]
    by_cases hl : path.toList.getLast? = some '/'
    · obtain ⟨front, hf⟩ := List.getLast?_eq_some_iff.mp hl
      rw [if_pos hl, hf, List.append_assoc, List.singleton_append, steps_append_slash front h]
    · have hne : path.toList ≠ [] := by simpa using hp
      rw [if_neg hl, steps_append_slash path.toList h, steps_append_slash_nil hne]

end Path

end LivePreview.Files
