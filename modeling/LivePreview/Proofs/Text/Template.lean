import LivePreview.Text.Template

/-!
# Filled templates

What filling makes of a template whose keys all start with a mark that stands nowhere else in it.

1. `Marked`: the keys start with the mark, and none of them is a prefix of another.
2. The first key of such a template is the earliest of all (`earliest_part`), so that filling goes
   through the template key by key. What is put in is never looked at (`toList_fill`).
-/

namespace LivePreview.Text

/-- Keys start with a mark, and none is a prefix of another. -/
structure Marked (mark : Char) (keys : List (List Char)) : Prop where
  starts : ∀ key ∈ keys, key.head? = some mark
  apart : keys.Pairwise fun key key' => ¬ key <+: key' ∧ ¬ key' <+: key

/-- A piece of a template, in front of the key of a variable. -/
structure Part where
  piece : List Char
  key : List Char
  value : List Char

/-- Parts of a template, with their keys. -/
def Part.sources (parts : List Part) : List Char := parts.flatMap fun p => p.piece ++ p.key

/-- Parts of a template, with their values in place of their keys. -/
def Part.filled (parts : List Part) : List Char := parts.flatMap fun p => p.piece ++ p.value

/-! ## Occurrences -/

section

variable {mark c : Char} {key other piece rest cs before behind : List Char}

/-- A key does not start where the mark is not. -/
theorem isPrefixOf_cons_of_ne (hkey : key.head? = some mark) (hc : c ≠ mark) :
    key.isPrefixOf (c :: cs) = false := by
  obtain ⟨key, rfl⟩ := List.head?_eq_some_iff.mp hkey
  rw [List.isPrefixOf_cons_cons, beq_false_of_ne hc.symm, Bool.false_and]

theorem splitAtFirst_at_start (h : key <+: cs) :
    splitAtFirst key cs = some ([], cs.drop key.length) := by
  cases cs with
  | nil =>
    obtain rfl := List.prefix_nil.mp h
    rfl
  | cons c cs => rw [splitAtFirst, if_pos (List.isPrefixOf_iff_prefix.mpr h)]

theorem splitAtFirst_cons_later (h : ¬ key <+: c :: cs) :
    splitAtFirst key (c :: cs) = (splitAtFirst key cs).map fun (before, behind) =>
      (c :: before, behind) := by
  rw [splitAtFirst, if_neg fun hp => h (List.isPrefixOf_iff_prefix.mp hp)]

/-- What is found of a key is around it. -/
theorem splitAtFirst_eq_some (h : splitAtFirst key cs = some (before, behind)) :
    cs = before ++ (key ++ behind) := by
  induction cs generalizing before with
  | nil =>
    rw [splitAtFirst] at h
    split at h <;> cases h
    rename_i hkey
    rw [List.isEmpty_iff.mp hkey]
    rfl
  | cons c cs ih =>
    by_cases hp : key <+: c :: cs
    · rw [splitAtFirst_at_start hp] at h
      cases h
      exact (List.prefix_iff_eq_append.mp hp).symm
    · rw [splitAtFirst_cons_later hp] at h
      obtain ⟨found, hs, he⟩ := Option.map_eq_some_iff.mp h
      cases he
      rw [List.cons_append, ← ih hs]

/-- A key that is found in a text is found there whatever is behind the text. -/
theorem splitAtFirst_append_of_some (h : splitAtFirst key cs = some (before, behind)) :
    splitAtFirst key (cs ++ rest) = some (before, behind ++ rest) := by
  induction cs generalizing before with
  | nil =>
    rw [splitAtFirst] at h
    split at h <;> cases h
    rename_i hkey
    rw [List.isEmpty_iff.mp hkey]
    exact splitAtFirst_at_start List.nil_prefix
  | cons c cs ih =>
    by_cases hp : key <+: c :: cs
    · rw [splitAtFirst_at_start hp] at h
      cases h
      rw [splitAtFirst_at_start (hp.trans (List.prefix_append _ rest)),
        List.drop_append_of_le_length hp.length_le]
    · rw [splitAtFirst_cons_later hp] at h
      obtain ⟨⟨before, behind⟩, hs, he⟩ := Option.map_eq_some_iff.mp h
      cases he
      -- where the key is found later, it is not long enough to reach behind the text
      have hlength := congrArg List.length (splitAtFirst_eq_some hs)
      simp only [List.length_append] at hlength
      have hp' : ¬ key <+: c :: (cs ++ rest) := fun hpre =>
        hp (List.prefix_of_prefix_length_le hpre (List.prefix_append (c :: cs) rest)
          (by rw [List.length_cons]; omega))
      rw [List.cons_append, splitAtFirst_cons_later hp', ih hs]
      rfl

/-- In front of a text without the mark there is no key. -/
theorem splitAtFirst_append (hkey : key.head? = some mark) (h : mark ∉ piece) :
    splitAtFirst key (piece ++ cs) =
      (splitAtFirst key cs).map fun (before, behind) => (piece ++ before, behind) := by
  induction piece with
  | nil => exact Option.map_id'.symm
  | cons c piece ih =>
    rw [List.mem_cons, not_or] at h
    have hnot : ¬ key <+: c :: (piece ++ cs) := by
      rw [← List.isPrefixOf_iff_prefix, isPrefixOf_cons_of_ne hkey (Ne.symm h.1)]
      decide
    rw [List.cons_append, splitAtFirst_cons_later hnot, ih h.2, Option.map_map]
    rfl

/-- A text without the mark has no key. -/
theorem splitAtFirst_eq_none (hkey : key.head? = some mark) (h : mark ∉ cs) :
    splitAtFirst key cs = none := by
  have hnil : splitAtFirst key [] = none := by
    refine if_neg fun he => ?_
    rw [List.isEmpty_iff.mp he] at hkey
    cases hkey
  rw [← List.append_nil cs, splitAtFirst_append hkey h, hnil]
  rfl

/-- A key is found behind a piece without the mark. -/
theorem splitAtFirst_piece (hkey : key.head? = some mark) (h : mark ∉ piece) :
    splitAtFirst key (piece ++ (key ++ rest)) = some (piece, rest) := by
  rw [splitAtFirst_append hkey h, splitAtFirst_at_start (List.prefix_append key rest),
    List.drop_left]
  exact congrArg (fun before => some (before, rest)) (List.append_nil piece)

/-- Another key is found later, if at all. -/
theorem length_lt_of_splitAtFirst (hkey : key ≠ []) (hother : other.head? = some mark)
    (h : mark ∉ piece) (hapart : ¬ other <+: key ∧ ¬ key <+: other)
    (hs : splitAtFirst other (piece ++ (key ++ rest)) = some (before, behind)) :
    piece.length < before.length := by
  obtain ⟨c, cs, hcs⟩ := List.exists_cons_of_ne_nil (List.append_ne_nil_of_left_ne_nil hkey rest)
  have hnot : ¬ other <+: key ++ rest := fun hp =>
    (List.prefix_or_prefix_of_prefix hp (List.prefix_append key rest)).elim hapart.1 hapart.2
  rw [hcs] at hs hnot
  rw [splitAtFirst_append hother h, splitAtFirst_cons_later hnot, Option.map_map] at hs
  obtain ⟨found, -, he⟩ := Option.map_eq_some_iff.mp hs
  cases he
  rw [List.length_append]
  exact Nat.lt_add_of_pos_right (Nat.succ_pos _)

end

/-! ## The earliest key -/

section

variable {vars : List (List Char × List Char)} {cs before value behind : List Char}

/-- What is found is kept against variables that are not found before it. -/
theorem foldl_earlier_eq_self
    (h : ∀ kv ∈ vars, ∀ found ∈ splitAtFirst kv.1 cs, before.length ≤ found.1.length) :
    vars.foldl (earlier cs) (some (before, value, behind)) = some (before, value, behind) := by
  induction vars with
  | nil => rfl
  | cons kv vars ih =>
    have hkeep : earlier cs (some (before, value, behind)) kv = some (before, value, behind) := by
      unfold earlier
      cases hs : splitAtFirst kv.1 cs with
      | none => rfl
      | some found => exact if_neg (Nat.not_lt_of_le (h kv List.mem_cons_self found hs))
    rw [List.foldl_cons, hkeep]
    exact ih fun kv' hm => h kv' (List.mem_cons_of_mem kv hm)

/-- A variable that is found before all others is found, whatever later place is known already. -/
theorem foldl_earlier_eq_some {key : List Char} {best : Option (List Char × List Char × List Char)}
    (hm : (key, value) ∈ vars) (hs : splitAtFirst key cs = some (before, behind))
    (h : ∀ kv ∈ vars, kv = (key, value) ∨
      ∀ found ∈ splitAtFirst kv.1 cs, before.length < found.1.length)
    (hbest : ∀ found ∈ best, before.length < found.1.length) :
    vars.foldl (earlier cs) best = some (before, value, behind) := by
  induction vars generalizing best with
  | nil => cases hm
  | cons kv vars ih =>
    rw [List.foldl_cons]
    by_cases hkv : kv = (key, value)
    · have htake : earlier cs best kv = some (before, value, behind) := by
        unfold earlier
        rw [hkv, hs]
        cases best with
        | none => rfl
        | some found => exact if_pos (hbest found rfl)
      rw [htake]
      refine foldl_earlier_eq_self fun kv' hm' found hf => ?_
      rcases h kv' (List.mem_cons_of_mem kv hm') with rfl | hlt
      · rw [hs] at hf
        cases hf
        exact Nat.le_refl _
      · exact Nat.le_of_lt (hlt found hf)
    · have hlater := (h kv List.mem_cons_self).resolve_left hkv
      refine ih ((List.mem_cons.mp hm).resolve_left fun he => hkv he.symm)
        (fun kv' hm' => h kv' (List.mem_cons_of_mem kv hm')) fun found hf => ?_
      unfold earlier at hf
      cases hs' : splitAtFirst kv.1 cs with
      | none =>
        rw [hs'] at hf
        exact hbest found hf
      | some found' =>
        rw [hs'] at hf
        cases best with
        | none =>
          cases hf
          exact hlater found' hs'
        | some known =>
          dsimp only at hf
          split at hf <;> cases hf
          · exact hlater found' hs'
          · exact hbest known rfl

end

/-! ## Filling -/

section

variable {mark : Char} {vars : List (List Char × List Char)}

/-- The keys of two variables are apart. -/
theorem Marked.eq_or_apart (hk : Marked mark (vars.map Prod.fst)) {kv kv' : List Char × List Char}
    (hm : kv ∈ vars) (hm' : kv' ∈ vars) : kv = kv' ∨ ¬ kv.1 <+: kv'.1 ∧ ¬ kv'.1 <+: kv.1 := by
  have hpairs := List.pairwise_map.mp hk.apart
  refine List.Pairwise.forall_of_forall_of_flip (fun _ _ => .inl rfl) (hpairs.imp Or.inr) ?_ hm hm'
  exact hpairs.imp fun h => .inr h.symm

/-- The earliest key of a template is that of its first part. -/
theorem earliest_part (hk : Marked mark (vars.map Prod.fst)) {piece key value : List Char}
    (hpiece : mark ∉ piece) (hvar : (key, value) ∈ vars) (rest : List Char) :
    earliest vars (piece ++ (key ++ rest)) = some (piece, value, rest) := by
  have hstart := hk.starts key (List.mem_map_of_mem hvar)
  have hne : key ≠ [] := by
    rintro rfl
    cases hstart
  refine foldl_earlier_eq_some hvar (splitAtFirst_piece hstart hpiece) (fun kv hm => ?_) nofun
  refine (hk.eq_or_apart hm hvar).imp_right fun hapart found hf => ?_
  exact length_lt_of_splitAtFirst hne (hk.starts _ (List.mem_map_of_mem hm)) hpiece hapart hf

/-- In a text without the mark there is no key. -/
theorem earliest_eq_none {cs : List Char} (hstart : ∀ kv ∈ vars, kv.1.head? = some mark)
    (h : mark ∉ cs) : earliest vars cs = none := by
  unfold earliest
  induction vars with
  | nil => rfl
  | cons kv vars ih =>
    have hskip : earlier cs none kv = none := by
      unfold earlier
      rw [splitAtFirst_eq_none (hstart kv List.mem_cons_self) h]
    rw [List.foldl_cons, hskip]
    exact ih fun kv' hm => hstart kv' (List.mem_cons_of_mem kv hm)

/-- A template is at least as long as it has keys. -/
theorem length_le_sources {parts : List Part} (h : ∀ p ∈ parts, p.key ≠ []) :
    parts.length ≤ (Part.sources parts).length := by
  induction parts with
  | nil => exact Nat.le_refl 0
  | cons p parts ih =>
    have hpos := List.length_pos_iff.mpr (h p List.mem_cons_self)
    have hrest := ih fun q hq => h q (List.mem_cons_of_mem p hq)
    unfold Part.sources at hrest ⊢
    rw [List.flatMap_cons, List.length_append, List.length_append, List.length_cons]
    omega

/-- With fuel for each part, and some to see that no key is left, filling fills all parts. -/
theorem fillAux_parts (hk : Marked mark (vars.map Prod.fst)) {parts : List Part} {last : List Char}
    (hparts : ∀ p ∈ parts, mark ∉ p.piece ∧ (p.key, p.value) ∈ vars) (hlast : mark ∉ last)
    {fuel : Nat} (hlt : parts.length < fuel) :
    fillAux vars fuel (Part.sources parts ++ last) = Part.filled parts ++ last := by
  induction parts generalizing fuel with
  | nil =>
    obtain ⟨fuel, rfl⟩ := Nat.exists_eq_succ_of_ne_zero (Nat.ne_zero_of_lt hlt)
    have hnone : earliest vars last = none :=
      earliest_eq_none (fun kv hm => hk.starts kv.1 (List.mem_map_of_mem hm)) hlast
    show fillAux vars (fuel + 1) last = last
    rw [fillAux, hnone]
  | cons p parts ih =>
    obtain ⟨fuel, rfl⟩ := Nat.exists_eq_succ_of_ne_zero (Nat.ne_zero_of_lt hlt)
    obtain ⟨hpiece, hvar⟩ := hparts p List.mem_cons_self
    have hsources : Part.sources (p :: parts) ++ last =
        p.piece ++ (p.key ++ (Part.sources parts ++ last)) := by
      simp only [Part.sources, List.flatMap_cons, List.append_assoc]
    have hrest := ih (fun q hq => hparts q (List.mem_cons_of_mem p hq))
      (Nat.lt_of_succ_lt_succ hlt)
    rw [hsources, fillAux, earliest_part hk hpiece hvar]
    dsimp only
    rw [hrest]
    simp only [Part.filled, List.flatMap_cons, List.append_assoc]

/-- Filling a template puts the values in place of the keys, and leaves what is between them. -/
theorem fillChars_parts {parts : List Part} {last : List Char}
    (hk : Marked mark (parts.map Part.key)) (hpieces : ∀ p ∈ parts, mark ∉ p.piece)
    (hlast : mark ∉ last) :
    fillChars (Part.sources parts ++ last) (parts.map fun p => (p.key, p.value)) =
      Part.filled parts ++ last := by
  have hvars : Marked mark ((parts.map fun p => (p.key, p.value)).map Prod.fst) := by
    rwa [List.map_map]
  have hle : parts.length ≤ (Part.sources parts).length := by
    refine length_le_sources fun p hp he => ?_
    have hstart := hk.starts p.key (List.mem_map_of_mem hp)
    rw [he] at hstart
    cases hstart
  have hlt : parts.length < (Part.sources parts ++ last).length + 1 := by
    rw [List.length_append]
    omega
  exact fillAux_parts hvars (fun p hp => ⟨hpieces p hp, List.mem_map_of_mem hp⟩) hlast hlt

/-- Filling a template that is written as parts and an end. -/
theorem toList_fill {template : String} {parts : List Part} {last : String}
    {vars : List (String × String)}
    (htemplate : template.toList = Part.sources parts ++ last.toList)
    (hvars : (vars.map fun (k, v) => (k.toList, v.toList)) = parts.map fun p => (p.key, p.value))
    (hk : Marked mark (parts.map Part.key)) (hpieces : ∀ p ∈ parts, mark ∉ p.piece)
    (hlast : mark ∉ last.toList) :
    (fill template vars).toList = Part.filled parts ++ last.toList := by
  rw [fill, String.toList_ofList, htemplate, hvars, fillChars_parts hk hpieces hlast]

end

end LivePreview.Text
