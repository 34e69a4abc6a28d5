import LivePreview.Text.Entity
import LivePreview.Text.Numeral

/-!
# Escaped text

What a page makes of escaped text, for any escaping whose entities refer to their characters
(`Refers`).

1. It reads none of it as its own: of the characters with entities only the ampersand is left
   (`Refers.not_mem_escapeWith`), and it stands where an entity begins (`Refers.begins`).
2. It shows the text: every character reference stands for the character that was escaped
   (`Refers.decodeReferences_escapeWith`).
-/

namespace LivePreview.Text

/-- What goes up to a mark is taken up to it. -/
theorem takeWhile_upTo {mark : Char} {cs rest : List Char} (h : mark ∉ cs)
    (hrest : rest.head? = some mark) :
    (cs ++ rest).takeWhile (· != mark) = cs ∧ (cs ++ rest).dropWhile (· != mark) = rest := by
  obtain ⟨rest, rfl⟩ := List.head?_eq_some_iff.mp hrest
  have hall : ∀ c ∈ cs, (c != mark) = true := fun c hc => bne_iff_ne.mpr fun he => h (he ▸ hc)
  have hstop : ¬ (mark != mark) = true := by simp
  constructor
  · rw [List.takeWhile_append_of_pos hall,
      List.takeWhile_cons_of_neg (p := (· != mark)) hstop, List.append_nil]
  · rw [List.dropWhile_append_of_pos hall,
      List.dropWhile_cons_of_neg (p := (· != mark)) hstop]

/-! ## References -/

/-- The character that a reference names: one of five by its name, any by its number. -/
def referenced? : List Char → Option Char
  | ['l', 't'] => some '<'
  | ['g', 't'] => some '>'
  | ['a', 'm', 'p'] => some '&'
  | ['q', 'u', 'o', 't'] => some '"'
  | ['a', 'p', 'o', 's'] => some '\''
  | '#' :: digit :: digits =>
    if (digit :: digits).all isDecimal then some (Char.ofNat (readDecimal (digit :: digits)))
    else none
  | _ => none

/-- The character that is named from here to the next semicolon, and the text behind that. -/
def reference? (cs : List Char) : Option (Char × List Char) :=
  match cs.dropWhile (· != ';') with
  | [] => none
  | _ :: behind => (referenced? (cs.takeWhile (· != ';'))).map fun c => (c, behind)

theorem reference?_length_lt {cs : List Char} {found : Char × List Char}
    (h : reference? cs = some found) : found.2.length < cs.length := by
  have hle := (List.dropWhile_suffix (· != ';') (l := cs)).length_le
  unfold reference? at h
  split at h
  · cases h
  · rename_i hdrop
    obtain ⟨c, -, rfl⟩ := Option.map_eq_some_iff.mp h
    rwa [hdrop] at hle

/-- The text that a page shows for source without tags: an ampersand starts a reference, or else
stands for itself. -/
def decodeReferences : List Char → List Char
  | [] => []
  | c :: cs =>
    if c = '&' then
      match _h : reference? cs with
      | some found => found.1 :: decodeReferences found.2
      | none => c :: decodeReferences cs
    else c :: decodeReferences cs
termination_by cs => cs.length
decreasing_by
  · exact Nat.lt_succ_of_lt (reference?_length_lt _h)
  · exact Nat.lt_succ_self _
  · exact Nat.lt_succ_self _

section

variable {c : Char} {cs name entity : List Char}

theorem decodeReferences_cons_of_ne (h : c ≠ '&') :
    decodeReferences (c :: cs) = c :: decodeReferences cs := by
  rw [decodeReferences, if_neg h]

/-- A reference is read as the character it names. -/
theorem decodeReferences_reference (hname : referenced? name = some c) (h : ';' ∉ name) :
    decodeReferences ('&' :: (name ++ ';' :: cs)) = c :: decodeReferences cs := by
  have href : reference? (name ++ ';' :: cs) = some (c, cs) := by
    have hstop : (';' :: cs).head? = some ';' := rfl
    obtain ⟨htake, hdrop⟩ := takeWhile_upTo h hstop
    rw [reference?, htake, hdrop, hname]
    rfl
  rw [decodeReferences, if_pos rfl]
  split
  · rename_i hfound
    rw [href] at hfound
    cases hfound
    rfl
  · rename_i hnone
    rw [href] at hnone
    cases hnone

/-! ## Entities -/

/-- Entities refer to their characters, and have nothing in them that is escaped but the ampersand
that they start with. -/
structure Refers (entity : Char → Option (List Char)) : Prop where
  ampersand : (entity '&').isSome = true
  reference : ∀ {c : Char} {e : List Char}, entity c = some e →
    ∃ name, e = '&' :: (name ++ [';']) ∧ referenced? name = some c ∧ ';' ∉ name ∧
      (name ++ [';']).all (fun d => (entity d).isNone) = true

theorem refers_textEntity : Refers textEntity := by
  refine ⟨rfl, fun h => ?_⟩
  unfold textEntity at h
  split at h <;> cases h
  · exact ⟨['l', 't'], rfl, rfl, by decide, rfl⟩
  · exact ⟨['g', 't'], rfl, rfl, by decide, rfl⟩
  · exact ⟨['a', 'm', 'p'], rfl, rfl, by decide, rfl⟩
  · exact ⟨['q', 'u', 'o', 't'], rfl, rfl, by decide, rfl⟩
  · exact ⟨['#', '3', '9'], rfl, rfl, by decide, rfl⟩

theorem refers_attributeEntity : Refers attributeEntity := by
  refine ⟨rfl, fun h => ?_⟩
  unfold attributeEntity at h
  split at h <;> cases h
  · exact ⟨['a', 'm', 'p'], rfl, rfl, by decide, rfl⟩
  · exact ⟨['q', 'u', 'o', 't'], rfl, rfl, by decide, rfl⟩

/-! ## Escaping -/

/-- Escaping writes each character by itself. -/
theorem escapeWith_eq_flatMap (entity : Char → Option (List Char)) (cs : List Char) :
    escapeWith entity cs = cs.flatMap fun c => (entity c).getD [c] := by
  unfold escapeWith
  induction cs with
  | nil => rfl
  | cons c cs ih =>
    cases hc : entity c with
    | none =>
      rw [List.takeWhile_cons_of_pos (by rw [hc]; rfl),
        List.dropWhile_cons_of_pos (by rw [hc]; rfl), List.flatMap_cons, hc, ← ih]
      rfl
    | some e =>
      have hstop : ¬ (entity c).isNone = true := by simp [hc]
      rw [List.takeWhile_cons_of_neg (p := fun c => (entity c).isNone) hstop,
        List.dropWhile_cons_of_neg (p := fun c => (entity c).isNone) hstop]
      rfl

/-- What has no entities is not escaped. -/
theorem escapeWith_eq_self {entity : Char → Option (List Char)} (h : ∀ c ∈ cs, entity c = none) :
    escapeWith entity cs = cs := by
  rw [escapeWith_eq_flatMap]
  induction cs with
  | nil => rfl
  | cons c cs ih =>
    rw [List.flatMap_cons, h c List.mem_cons_self, ih fun d hd => h d (List.mem_cons_of_mem c hd)]
    rfl

theorem escapeWith_append (entity : Char → Option (List Char)) (cs cs' : List Char) :
    escapeWith entity (cs ++ cs') = escapeWith entity cs ++ escapeWith entity cs' := by
  simp only [escapeWith_eq_flatMap, List.flatMap_append]

end

namespace Refers

variable {entity : Char → Option (List Char)} (h : Refers entity) {c : Char}
  {cs before behind : List Char}

include h

theorem ne_ampersand (hc : entity c = none) : c ≠ '&' := by
  rintro rfl
  have hsome := h.ampersand
  rw [hc] at hsome
  cases hsome

/-- What is behind the ampersand of an entity is not escaped. -/
theorem tail_eq_none {e tail : List Char} (hc : entity c = some e) (he : e = '&' :: tail) :
    ∀ d ∈ tail, entity d = none := by
  obtain ⟨name, rfl, -, -, hall⟩ := h.reference hc
  obtain rfl := (List.cons.inj he).2
  exact fun d hd => Option.isNone_iff_eq_none.mp (List.all_eq_true.mp hall d hd)

/-- Of the characters that are escaped only the ampersand is left. -/
theorem not_mem_escapeWith (hc : (entity c).isSome = true) (hne : c ≠ '&') (cs : List Char) :
    c ∉ escapeWith entity cs := by
  rw [escapeWith_eq_flatMap, List.mem_flatMap]
  rintro ⟨d, -, hd⟩
  cases hentity : entity d with
  | none =>
    rw [hentity, Option.getD_none, List.mem_singleton] at hd
    subst hd
    rw [hentity] at hc
    cases hc
  | some e =>
    obtain ⟨name, rfl, -, -, -⟩ := h.reference hentity
    rw [hentity, Option.getD_some] at hd
    have hnone := h.tail_eq_none hentity rfl c ((List.mem_cons.mp hd).resolve_left hne)
    rw [hnone] at hc
    cases hc

/-- An ampersand in what is written for a character is the start of its entity. -/
theorem entity_eq_some (heq : (entity c).getD [c] = before ++ '&' :: behind) :
    entity c = some ('&' :: behind) := by
  cases hc : entity c with
  | none =>
    rw [hc, Option.getD_none] at heq
    cases before with
    | nil => exact absurd (List.cons.inj heq).1 (h.ne_ampersand hc)
    | cons b before => exact absurd (List.cons.inj heq).2.symm (by simp)
  | some e =>
    obtain ⟨name, rfl, -, -, -⟩ := h.reference hc
    rw [hc, Option.getD_some] at heq
    cases before with
    | nil => rw [heq, List.nil_append]
    | cons b before =>
      have hmem : '&' ∈ name ++ [';'] := by
        rw [(List.cons.inj heq).2]
        exact List.mem_append_right before List.mem_cons_self
      exact absurd rfl (h.ne_ampersand (h.tail_eq_none hc rfl '&' hmem))

/-- Every ampersand of escaped text begins an entity. -/
theorem begins (heq : escapeWith entity cs = before ++ '&' :: behind) :
    ∃ c e, entity c = some e ∧ e <+: '&' :: behind := by
  rw [escapeWith_eq_flatMap] at heq
  induction cs generalizing before with
  | nil => exact absurd heq (by simp)
  | cons c cs ih =>
    rw [List.flatMap_cons] at heq
    rcases List.append_eq_append_iff.mp heq with ⟨front, -, hrest⟩ | ⟨tail, hc, htail⟩
    · exact ih hrest
    · -- the ampersand is the first of the rest, or in what is written for the character
      cases tail with
      | nil => exact ih (show _ = [] ++ '&' :: behind from htail.symm)
      | cons d tail =>
        obtain ⟨rfl, rfl⟩ := List.cons.inj htail
        exact ⟨c, _, h.entity_eq_some hc, List.prefix_append ('&' :: tail) _⟩

/-- Escaped text is shown as what it was. -/
theorem decodeReferences_escapeWith (cs : List Char) :
    decodeReferences (escapeWith entity cs) = cs := by
  rw [escapeWith_eq_flatMap]
  induction cs with
  | nil => rw [List.flatMap_nil, decodeReferences]
  | cons c cs ih =>
    rw [List.flatMap_cons]
    cases hc : entity c with
    | none =>
      rw [Option.getD_none, List.singleton_append,
        decodeReferences_cons_of_ne (h.ne_ampersand hc), ih]
    | some e =>
      obtain ⟨name, rfl, hname, hsemi, -⟩ := h.reference hc
      rw [Option.getD_some, List.cons_append, List.append_assoc, List.singleton_append,
        decodeReferences_reference hname hsemi, ih]

end Refers

theorem toList_escape (s : String) : (escape s).toList = escapeWith textEntity s.toList :=
  String.toList_ofList

theorem toList_escapeAttribute (s : String) :
    (escapeAttribute s).toList = escapeWith attributeEntity s.toList :=
  String.toList_ofList

/-- Escaped running text has no angle bracket and no quote. -/
theorem not_mem_escape {c : Char} (hc : c ∈ ['<', '>', '"', '\'']) (cs : List Char) :
    c ∉ escapeWith textEntity cs := by
  simp only [List.mem_cons, List.not_mem_nil, or_false] at hc
  rcases hc with rfl | rfl | rfl | rfl
  all_goals exact refers_textEntity.not_mem_escapeWith rfl (by decide) cs

/-! ## The main theorem -/

/-- The references that stand for characters of running text. -/
def textReferences : List (Char × String) :=
  [('<', "&lt;"), ('>', "&gt;"), ('&', "&amp;"), ('"', "&quot;"), ('\'', "&#39;")]

/-- The references that stand for characters of an attribute in double quotes. -/
def attributeReferences : List (Char × String) := [('&', "&amp;"), ('"', "&quot;")]

/-- Texts are escaped by references to these characters. -/
structure Escapes (references : List (Char × String)) (escape : String → String) : Prop where
  /-- Each character is written by itself, by its reference or as it is. -/
  each : ∀ s, (escape s).toList =
    s.toList.flatMap fun c => ((references.lookup c).map String.toList).getD [c]
  /-- None of the characters is left but the ampersand. -/
  absent : ∀ s, ∀ r ∈ references, r.1 ≠ '&' → r.1 ∉ (escape s).toList
  /-- Every ampersand begins a reference. -/
  begins : ∀ s before behind, (escape s).toList = before ++ '&' :: behind →
    ∃ r ∈ references, r.2.toList <+: '&' :: behind
  /-- Decoding gives back the text. -/
  decodes : ∀ s, decodeReferences (escape s).toList = s.toList
  /-- Different texts are written differently. -/
  injective : ∀ s t, escape s = escape t → s = t
  /-- A text is written piece by piece. -/
  append : ∀ s t, escape (s ++ t) = escape s ++ escape t

theorem textEntity_eq_lookup (c : Char) :
    textEntity c = (textReferences.lookup c).map String.toList := by
  unfold textEntity
  split
  iterate 5 exact congrArg some String.toList_ofList.symm
  rw [List.lookup_eq_none_iff.mpr (by simp_all [textReferences])]
  rfl

theorem attributeEntity_eq_lookup (c : Char) :
    attributeEntity c = (attributeReferences.lookup c).map String.toList := by
  unfold attributeEntity
  split
  iterate 2 exact congrArg some String.toList_ofList.symm
  rw [List.lookup_eq_none_iff.mpr (by simp_all [attributeReferences])]
  rfl

/-- Escaping by entities that refer to their characters is escaping by references. -/
theorem Refers.escapes {entity : Char → Option (List Char)} {references : List (Char × String)}
    (h : Refers entity) (hlookup : ∀ c, entity c = (references.lookup c).map String.toList) :
    Escapes references fun s => String.ofList (escapeWith entity s.toList) := by
  have hdecodes : ∀ s : String,
      decodeReferences (String.ofList (escapeWith entity s.toList)).toList = s.toList := by
    intro s
    rw [String.toList_ofList, h.decodeReferences_escapeWith]
  refine ⟨fun s => ?_, fun s r hr hne => ?_, fun s before behind heq => ?_, hdecodes,
    fun s t heq => ?_, fun s t => ?_⟩
  · simp only [String.toList_ofList, escapeWith_eq_flatMap, hlookup]
  · rw [String.toList_ofList]
    refine h.not_mem_escapeWith ?_ hne _
    rw [hlookup, Option.isSome_map]
    exact List.lookup_isSome_iff.mpr ⟨r, hr, beq_self_eq_true r.1⟩
  · rw [String.toList_ofList] at heq
    obtain ⟨c, e, hc, hbegins⟩ := h.begins heq
    rw [hlookup] at hc
    obtain ⟨text, hfound, rfl⟩ := Option.map_eq_some_iff.mp hc
    obtain ⟨front, back, rfl, -⟩ := List.lookup_eq_some_iff.mp hfound
    exact ⟨(c, text), List.mem_append_right front List.mem_cons_self, hbegins⟩
  · rw [← String.toList_inj, ← hdecodes s, ← hdecodes t, heq]
  · rw [String.toList_append, escapeWith_append, String.ofList_append]

/-- **Text is escaped by references**: running text by those of five characters, attributes by those
of two. -/
theorem escapes_by_references :
    Escapes textReferences escape ∧ Escapes attributeReferences escapeAttribute :=
  ⟨refers_textEntity.escapes textEntity_eq_lookup,
    refers_attributeEntity.escapes attributeEntity_eq_lookup⟩

/-- What looks like a reference is escaped as any other text. -/
example : escape "a &lt; b" = "a &amp;lt; b" := by decide +kernel

end LivePreview.Text
