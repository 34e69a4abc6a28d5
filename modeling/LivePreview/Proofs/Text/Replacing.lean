import LivePreview.Proofs.Text.Template

/-!
# Filling as a scan

Filling a template replaces the earliest key of what is left of it, again and again. That is going
through the template once, from left to right.

1. Where a key stands at the start of a text, the earliest key is the first listed one that stands
   there (`earliest_of_find?`). Where none does, the earliest key is that of the text behind the
   first character (`earliest_cons`).
2. So one replacement is a scan up to its end (`scan_of_earliest`), and a text without keys is
   scanned as it is (`scan_of_earliest_eq_none`).
3. A replacement leaves less of the template, unless its key is empty (`earliest_length_lt`). So
   the replacements come to an end (`fills_fillAux`), which they never do where a key is empty
   (`not_fills_of_empty_key`).
-/

namespace LivePreview.Text

/-- Replacing the earliest key of what is left, as long as there is one, makes this text of it. -/
inductive Fills (vars : List (List Char × List Char)) : List Char → List Char → Prop where
  | done (cs : List Char) (hnone : earliest vars cs = none) : Fills vars cs cs
  | replace (cs before value behind filled : List Char)
      (hfound : earliest vars cs = some (before, value, behind))
      (hbehind : Fills vars behind filled) : Fills vars cs (before ++ value ++ filled)

/-- A text gone through from left to right: the first listed key that stands at a place is replaced
by its value, and what is behind the key comes next; where no key stands, a character is kept. -/
def scan (vars : List (List Char × List Char)) : List Char → List Char
  | [] => []
  | c :: cs =>
    match vars.find? fun kv => kv.1.isPrefixOf (c :: cs) with
    | some (key, value) => value ++ scan vars (cs.drop (key.length - 1))
    | none => c :: scan vars cs
termination_by cs => cs.length
decreasing_by
  · simp only [List.length_drop, List.length_cons]
    omega
  · exact Nat.lt_succ_self _

/-- Variables with their characters. -/
def charsOf (vars : List (String × String)) : List (List Char × List Char) :=
  vars.map fun kv => (kv.1.toList, kv.2.toList)

/-! ## The earliest key -/

section

variable {vars : List (List Char × List Char)} {kv : List Char × List Char}
  {best : Option (List Char × List Char × List Char)} {c : Char}
  {cs key before value behind filled : List Char}

/-- A key that does not stand at the start is found behind it, if at all. -/
theorem ne_nil_of_splitAtFirst (hp : ¬ key <+: cs)
    (h : splitAtFirst key cs = some (before, behind)) : before ≠ [] := by
  rintro rfl
  exact hp ⟨behind, (splitAtFirst_eq_some h).symm⟩

/-- One more variable leaves what is known, or it is known where its key is found. -/
theorem earlier_eq_or (cs : List Char) (best : Option (List Char × List Char × List Char))
    (kv : List Char × List Char) :
    earlier cs best kv = best ∨ ∃ before behind, splitAtFirst kv.1 cs = some (before, behind) ∧
      earlier cs best kv = some (before, kv.2, behind) := by
  unfold earlier
  cases hs : splitAtFirst kv.1 cs with
  | none => exact .inl rfl
  | some found =>
    cases best with
    | none => exact .inr ⟨found.1, found.2, rfl, rfl⟩
    | some known =>
      dsimp only
      split
      · exact .inr ⟨found.1, found.2, rfl, rfl⟩
      · exact .inl rfl

/-- What is known of several variables was known before, or is where one of their keys is found. -/
theorem mem_foldl_earlier (h : vars.foldl (earlier cs) best = some (before, value, behind)) :
    best = some (before, value, behind) ∨
      ∃ key, (key, value) ∈ vars ∧ splitAtFirst key cs = some (before, behind) := by
  induction vars generalizing best with
  | nil => exact .inl h
  | cons kv vars ih =>
    rw [List.foldl_cons] at h
    rcases ih h with hbest | ⟨key, hm, hs⟩
    · rcases earlier_eq_or cs best kv with he | ⟨before', behind', hs, he⟩
      · exact .inl (he.symm.trans hbest)
      · rw [he] at hbest
        cases hbest
        exact .inr ⟨kv.1, List.mem_cons_self, hs⟩
    · exact .inr ⟨key, List.mem_cons_of_mem kv hm, hs⟩

/-- The earliest key is one of those listed, and what is found of it is around it. -/
theorem earliest_eq_some (h : earliest vars cs = some (before, value, behind)) :
    ∃ key, (key, value) ∈ vars ∧ cs = before ++ (key ++ behind) := by
  rcases mem_foldl_earlier h with hbest | ⟨key, hm, hs⟩
  · cases hbest
  · exact ⟨key, hm, splitAtFirst_eq_some hs⟩

theorem earliest_nil (hkeys : ∀ kv ∈ vars, kv.1 ≠ []) : earliest vars [] = none := by
  cases h : earliest vars [] with
  | none => rfl
  | some found =>
    obtain ⟨key, hm, hnil⟩ := earliest_eq_some h
    exact absurd (List.append_eq_nil_iff.mp (List.append_eq_nil_iff.mp hnil.symm).2).1 (hkeys _ hm)

/-- A replacement leaves less than there was. -/
theorem earliest_length_lt (hkeys : ∀ kv ∈ vars, kv.1 ≠ [])
    (h : earliest vars cs = some (before, value, behind)) : behind.length < cs.length := by
  obtain ⟨key, hm, rfl⟩ := earliest_eq_some h
  have hpos : 0 < key.length := List.length_pos_iff.mpr (hkeys _ hm)
  simp only [List.length_append]
  omega

/-- A key that is found before all that is known is taken. -/
theorem earlier_of_lt (hs : splitAtFirst kv.1 cs = some (before, behind))
    (h : ∀ known ∈ best, before.length < known.1.length) :
    earlier cs best kv = some (before, kv.2, behind) := by
  unfold earlier
  rw [hs]
  cases best with
  | none => rfl
  | some known => exact if_pos (h known rfl)

/-- Where keys stand at the start of a text, the earliest is the one that is listed first. -/
theorem earliest_of_find?
    (h : vars.find? (fun kv => kv.1.isPrefixOf cs) = some (key, value)) :
    earliest vars cs = some ([], value, cs.drop key.length) := by
  obtain ⟨hp, front, back, rfl, hfront⟩ := List.find?_eq_some_iff_append.mp h
  have hat : splitAtFirst key cs = some ([], cs.drop key.length) :=
    splitAtFirst_at_start (List.isPrefixOf_iff_prefix.mp hp)
  -- what the variables listed before it leave known is further on
  have hlater : ∀ known ∈ front.foldl (earlier cs) none, 0 < known.1.length := by
    rintro ⟨before, value', behind⟩ hknown
    obtain ⟨key', hm, hs⟩ := (mem_foldl_earlier hknown).resolve_left nofun
    have hp' : ¬ key' <+: cs := fun hpre => by
      have hnot := hfront _ hm
      rw [List.isPrefixOf_iff_prefix.mpr hpre] at hnot
      cases hnot
    exact List.length_pos_iff.mpr (ne_nil_of_splitAtFirst hp' hs)
  rw [earliest, List.foldl_append, List.foldl_cons, earlier_of_lt hat hlater]
  exact foldl_earlier_eq_self fun _ _ _ _ => Nat.zero_le _

/-- What is found behind a character, told of the text with the character. -/
def behindChar (c : Char) (found : List Char × List Char × List Char) :
    List Char × List Char × List Char := (c :: found.1, found.2)

theorem earlier_cons (h : ¬ kv.1 <+: c :: cs) :
    earlier (c :: cs) (best.map (behindChar c)) kv = (earlier cs best kv).map (behindChar c) := by
  unfold earlier
  rw [splitAtFirst_cons_later h]
  cases splitAtFirst kv.1 cs with
  | none => rfl
  | some found =>
    cases best with
    | none => rfl
    | some known =>
      simp only [Option.map_some, behindChar, List.length_cons, Nat.add_lt_add_iff_right]
      split <;> rfl

/-- Where no key stands at the start of a text, the earliest is that of the text behind the first
character. -/
theorem earliest_cons (h : ∀ kv ∈ vars, ¬ kv.1 <+: c :: cs) :
    earliest vars (c :: cs) = (earliest vars cs).map (behindChar c) := by
  have hfold : ∀ best, vars.foldl (earlier (c :: cs)) (best.map (behindChar c)) =
      (vars.foldl (earlier cs) best).map (behindChar c) := by
    induction vars with
    | nil => exact fun _ => rfl
    | cons kv vars ih =>
      intro best
      rw [List.foldl_cons, List.foldl_cons, earlier_cons (h kv List.mem_cons_self)]
      exact ih (fun kv' hm => h kv' (List.mem_cons_of_mem kv hm)) _
  exact hfold none

/-! ## Scanning -/

theorem not_prefix_of_find?_eq_none
    (h : vars.find? (fun kv => kv.1.isPrefixOf cs) = none) : ∀ kv ∈ vars, ¬ kv.1 <+: cs := by
  intro kv hm hp
  exact List.find?_eq_none.mp h kv hm (List.isPrefixOf_iff_prefix.mpr hp)

theorem scan_replace (h : vars.find? (fun kv => kv.1.isPrefixOf (c :: cs)) = some (key, value)) :
    scan vars (c :: cs) = value ++ scan vars (cs.drop (key.length - 1)) := by
  rw [scan, h]

theorem scan_keep (h : vars.find? (fun kv => kv.1.isPrefixOf (c :: cs)) = none) :
    scan vars (c :: cs) = c :: scan vars cs := by
  rw [scan, h]

/-- A text without keys is scanned as it is. -/
theorem scan_of_earliest_eq_none (h : earliest vars cs = none) : scan vars cs = cs := by
  induction cs with
  | nil => rw [scan]
  | cons c cs ih =>
    cases hf : vars.find? (fun kv => kv.1.isPrefixOf (c :: cs)) with
    | some kv =>
      rw [earliest_of_find? hf] at h
      cases h
    | none =>
      rw [earliest_cons (not_prefix_of_find?_eq_none hf), Option.map_eq_none_iff] at h
      rw [scan_keep hf, ih h]

/-- Up to the end of the earliest key, a scan replaces that key and nothing else. -/
theorem scan_of_earliest (hkeys : ∀ kv ∈ vars, kv.1 ≠ [])
    (h : earliest vars cs = some (before, value, behind)) :
    scan vars cs = before ++ value ++ scan vars behind := by
  induction cs generalizing before with
  | nil =>
    rw [earliest_nil hkeys] at h
    cases h
  | cons c cs ih =>
    cases hf : vars.find? (fun kv => kv.1.isPrefixOf (c :: cs)) with
    | some kv =>
      obtain ⟨n, hn⟩ := Nat.exists_eq_succ_of_ne_zero
        (Nat.ne_of_gt (List.length_pos_iff.mpr (hkeys kv (List.mem_of_find?_eq_some hf))))
      rw [earliest_of_find? hf] at h
      cases h
      rw [scan_replace hf, hn, List.drop_succ_cons, List.nil_append]
      rfl
    | none =>
      rw [earliest_cons (not_prefix_of_find?_eq_none hf)] at h
      obtain ⟨⟨before, value, behind⟩, hfound, he⟩ := Option.map_eq_some_iff.mp h
      cases he
      rw [scan_keep hf, ih hfound]
      rfl

/-! ## Replacing -/

/-- What replacing makes of a text is the scan of it. -/
theorem Fills.eq_scan (h : Fills vars cs filled) (hkeys : ∀ kv ∈ vars, kv.1 ≠ []) :
    filled = scan vars cs := by
  induction h with
  | done cs hnone => exact (scan_of_earliest_eq_none hnone).symm
  | replace cs before value behind filled hfound _ ih => rw [scan_of_earliest hkeys hfound, ih]

/-- With as much fuel as there are characters, and some to see that no key is left, replacing comes
to its end. -/
theorem fills_fillAux (hkeys : ∀ kv ∈ vars, kv.1 ≠ []) {fuel : Nat} (hlt : cs.length < fuel) :
    Fills vars cs (fillAux vars fuel cs) := by
  induction fuel generalizing cs with
  | zero => exact absurd hlt (Nat.not_lt_zero _)
  | succ fuel ih =>
    rw [fillAux]
    cases h : earliest vars cs with
    | none => exact .done cs h
    | some found =>
      have hless := earliest_length_lt hkeys h
      exact .replace cs _ _ _ _ h (ih (by omega))

/-- With an empty key, replacing never comes to an end. -/
theorem not_fills_of_empty_key (hkey : ([], value) ∈ vars) : ¬ Fills vars cs filled := by
  intro h
  induction h with
  | done cs hnone =>
    cases hf : vars.find? (fun kv => kv.1.isPrefixOf cs) with
    | some kv =>
      rw [earliest_of_find? hf] at hnone
      cases hnone
    | none => exact not_prefix_of_find?_eq_none hf _ hkey List.nil_prefix
  | replace _ _ _ _ _ _ _ ih => exact ih

end

theorem ne_nil_of_mem_charsOf {vars : List (String × String)} (hkeys : ∀ kv ∈ vars, kv.1 ≠ "") :
    ∀ kv ∈ charsOf vars, kv.1 ≠ [] := by
  intro kv hm
  obtain ⟨var, hvar, rfl⟩ := List.mem_map.mp hm
  exact fun hnil => hkeys var hvar (String.toList_eq_nil_iff.mp hnil)

/-! ## The main theorem -/

/-- **Filling is a scan.** If no key is empty, replacing the earliest key again and again comes to
an end with what filling answers and with nothing else, and that is the scan of the template, from
left to right and with the first listed key at each place. -/
theorem fill_scans (template : String) (vars : List (String × String))
    (hkeys : ∀ kv ∈ vars, kv.1 ≠ "") :
    (∀ filled, Fills (charsOf vars) template.toList filled ↔
      filled = (fill template vars).toList) ∧
    fill template vars = String.ofList (scan (charsOf vars) template.toList) := by
  have hchars := ne_nil_of_mem_charsOf hkeys
  have hfill : (fill template vars).toList =
      fillAux (charsOf vars) (template.toList.length + 1) template.toList := by
    rw [fill, String.toList_ofList]
    rfl
  have hfills : Fills (charsOf vars) template.toList (fill template vars).toList :=
    hfill ▸ fills_fillAux hchars (Nat.lt_succ_self _)
  refine ⟨fun filled => ⟨fun h => ?_, fun h => h ▸ hfills⟩, ?_⟩
  · rw [h.eq_scan hchars, hfills.eq_scan hchars]
  · rw [← hfills.eq_scan hchars, String.ofList_toList]

/-- Keys that overlap, that start one another and that are listed twice, and values with keys. -/
theorem fill_scans_overlapping :
    let vars := [("ba", "ab"), ("ab", "ba"), ("a", "b"), ("ab", "")]
    (∀ kv ∈ vars, kv.1 ≠ "") ∧ fill "abaab" vars = "babba" := by
  intro vars
  have hkeys : ∀ kv ∈ vars, kv.1 ≠ "" := by decide
  refine ⟨hkeys, ?_⟩
  rw [(fill_scans "abaab" vars hkeys).2]
  decide +kernel

end LivePreview.Text
