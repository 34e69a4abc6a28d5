import LivePreview.Watch.Targets
import Mathlib.Data.List.Basic

/-!
# Which events are told of

1. The name and the extension of a path are those of its absolute form (`fileName?_eq_absolute`), so
   that paths of one file are all temporary or none is (`isTemporary_eq_of_absolute`). A path that
   is a dot alone has no name, whatever the name of the working directory.
2. A file is `Heeded` among the paths of an event if one of them is a path of the file and does not
   have a name that editors give to files they keep for themselves.
3. The paths are read one after the other, and the document ends the reading; what is read comes to
   the same as looking for the document first and for the settings file then (`signalOf_eq`).
4. An event that may have changed content is a signal exactly if it heeds a watched file, and a save
   exactly if it heeds the document (`classify_heeds_watched`). A watched file is never heeded by
   such a name, and its changes are dropped (`classify_drops_watched`).
5. Hence the order of the paths does not matter, nor how often each is told, nor any that is
   temporary or not watched (`classify_reads_set`).
-/

namespace LivePreview.Watch

open Files (Component Path.absolute Path.components Path.extension? Path.fileName?)

/-- The name that a component is, if it is one. -/
def nameOf? : Component → Option (List Char)
  | .name text => some text
  | .root | .here | .above => none

theorem fileName?_eq_bind (path : List Char) :
    Path.fileName? path = (Path.components path).getLast?.bind nameOf? := by
  unfold Path.fileName?
  cases (Path.components path).getLast? with
  | none => rfl
  | some c => cases c <;> rfl

/-- A component in front that is no name does not change the last name. -/
theorem getLast?_cons_bind {c : Component} (hc : nameOf? c = none) (cs : List Component) :
    (c :: cs).getLast?.bind nameOf? = cs.getLast?.bind nameOf? := by
  cases cs with
  | nil => simpa using hc
  | cons d ds => rw [List.getLast?_cons_cons]

/-- A path that is a single dot, with slashes and dots behind it that do not count. -/
def IsDot (path : List Char) : Prop := Path.components path = [.here]

instance : DecidablePred IsDot := fun path => decEq (Path.components path) [.here]

variable {cwd cwd' : Option (List Char)}

/-- The name of a path is that of its absolute form, wherever it is taken. -/
theorem fileName?_eq_absolute {path : List Char} (h : ¬ IsDot path) :
    Path.fileName? path = (Path.absolute cwd path).getLast?.bind nameOf? := by
  rw [fileName?_eq_bind]
  unfold Path.absolute
  split
  · rename_i hc
    rw [hc]
  · rename_i rest hc
    rw [hc]
  · rename_i rest directory hc
    have hne : rest ≠ [] := fun he => h (by rw [IsDot, hc, he])
    rw [hc, getLast?_cons_bind rfl, List.getLast?_append_of_ne_nil _ hne]
  · rename_i hne _ _
    rw [List.getLast?_append_of_ne_nil _ hne]
  · rfl

/-- Paths of one file are temporary together. -/
theorem isTemporary_eq_of_absolute {p q : List Char} (hp : ¬ IsDot p) (hq : ¬ IsDot q)
    (h : Path.absolute cwd p = Path.absolute cwd' q) : isTemporary p = isTemporary q := by
  have hn : Path.fileName? p = Path.fileName? q := by
    rw [fileName?_eq_absolute hp, fileName?_eq_absolute hq, h]
  unfold isTemporary Path.extension?
  rw [hn]

/-- A dot has no name, and so none that is temporary. -/
theorem isTemporary_of_isDot {path : List Char} (h : IsDot path) : isTemporary path = false := by
  have hn : Path.fileName? path = none := by rw [fileName?_eq_bind, h]; rfl
  unfold isTemporary Path.extension?
  rw [hn]
  rfl

/-- One of some paths is a path of a file, by a name that is not temporary. -/
def Heeded (cwd : Option (List Char)) (file : List Component) (paths : List (List Char)) : Prop :=
  ∃ p ∈ paths, isTemporary p = false ∧ Path.absolute cwd p = file

/-- A file told by a path with a name is heeded by that name, if any of its paths has one. -/
theorem heeded_absolute_iff {file : List Char} (hf : ¬ IsDot file) (paths : List (List Char)) :
    Heeded cwd (Path.absolute cwd' file) paths ↔
      ∃ p ∈ paths, Path.absolute cwd p = Path.absolute cwd' file ∧
        (isTemporary file = true → IsDot p) := by
  refine exists_congr fun p => and_congr_right fun _ => ?_
  rw [and_comm]
  refine and_congr_right fun ha => ?_
  by_cases hp : IsDot p
  · simp [hp, isTemporary_of_isDot hp]
  · rw [isTemporary_eq_of_absolute hp hf ha]
    simp [hp]

namespace Targets

variable (t : Targets) (cwd : Option (List Char)) (kind : EventKind) (paths : List (List Char))

/-- Reading paths in order finds the document if it is anywhere among them, and else the settings
file. -/
theorem signalOf_eq (found : Option Signal) :
    t.signalOf cwd found paths =
      if paths.any (t.isDocument cwd) then some (.changed .save)
      else if paths.any (t.isSettings cwd) then some .settingsChanged else found := by
  induction paths generalizing found with
  | nil => rfl
  | cons path paths ih =>
    rw [signalOf, List.any_cons, List.any_cons]
    cases hd : t.isDocument cwd path with
    | true => rfl
    | false =>
      -- what is kept in mind counts only if nothing is found behind
      rw [if_neg Bool.false_ne_true, ih, Bool.false_or]
      cases t.isSettings cwd path <;> simp

theorem any_isDocument_iff :
    ((paths.filter fun p => !isTemporary p).any (t.isDocument cwd)) = true ↔
      Heeded cwd t.document paths := by
  simp [Heeded, isDocument]

theorem any_isSettings_iff :
    ((paths.filter fun p => !isTemporary p).any (t.isSettings cwd)) = true ↔
      ∃ settings ∈ t.settings, Heeded cwd settings paths := by
  rw [List.any_eq_true]
  constructor
  · rintro ⟨p, hp, hs⟩
    obtain ⟨hp, ht⟩ := List.mem_filter.mp hp
    exact ⟨_, beq_iff_eq.mp hs, p, hp, by simpa using ht, rfl⟩
  · rintro ⟨_, hs, p, hp, ht, rfl⟩
    exact ⟨p, List.mem_filter.mpr ⟨hp, by rw [ht]; rfl⟩, beq_iff_eq.mpr hs⟩

/-- All that an event can be told as. -/
theorem classify_cases :
    (kind.changesContent = false ∧ t.classify cwd kind paths = none) ∨
    (kind.changesContent = true ∧ Heeded cwd t.document paths ∧
      t.classify cwd kind paths = some (.changed .save)) ∨
    (kind.changesContent = true ∧ ¬ Heeded cwd t.document paths ∧
      (∃ settings ∈ t.settings, Heeded cwd settings paths) ∧
      t.classify cwd kind paths = some .settingsChanged) ∨
    (kind.changesContent = true ∧ ¬ Heeded cwd t.document paths ∧
      (¬ ∃ settings ∈ t.settings, Heeded cwd settings paths) ∧
      t.classify cwd kind paths = none) := by
  unfold classify
  rw [signalOf_eq]
  by_cases hk : kind.changesContent = true
  · rw [if_pos hk]
    by_cases hd : Heeded cwd t.document paths
    · rw [if_pos ((t.any_isDocument_iff cwd paths).mpr hd)]
      exact .inr (.inl ⟨hk, hd, rfl⟩)
    · rw [if_neg (mt (t.any_isDocument_iff cwd paths).mp hd)]
      by_cases hs : ∃ settings ∈ t.settings, Heeded cwd settings paths
      · rw [if_pos ((t.any_isSettings_iff cwd paths).mpr hs)]
        exact .inr (.inr (.inl ⟨hk, hd, hs, rfl⟩))
      · rw [if_neg (mt (t.any_isSettings_iff cwd paths).mp hs)]
        exact .inr (.inr (.inr ⟨hk, hd, hs, rfl⟩))
  · rw [if_neg hk]
    exact .inl ⟨Bool.eq_false_iff.mpr hk, rfl⟩

/-- An event is a save exactly if it may have changed content and heeds the document, and it is told
of exactly if it may have changed content and heeds a watched file. A file told by a path that is no
dot is heeded by all of its paths, unless its name is one of those that editors give: then only a
dot can tell of it. -/
theorem classify_heeds_watched (cwd' : Option (List Char)) (document : List Char)
    (settings : Option (List Char)) :
    ((of cwd' document settings).classify cwd kind paths = some (.changed .save) ↔
      kind.changesContent = true ∧ Heeded cwd (Path.absolute cwd' document) paths) ∧
    (((of cwd' document settings).classify cwd kind paths).isSome = true ↔
      kind.changesContent = true ∧
        ∃ file ∈ document :: settings.toList, Heeded cwd (Path.absolute cwd' file) paths) ∧
    ∀ file, ¬ IsDot file → (Heeded cwd (Path.absolute cwd' file) paths ↔
      ∃ p ∈ paths, Path.absolute cwd p = Path.absolute cwd' file ∧
        (isTemporary file = true → IsDot p)) := by
  have hwatched : (∃ file ∈ document :: settings.toList,
      Heeded cwd (Path.absolute cwd' file) paths) ↔
      Heeded cwd (Path.absolute cwd' document) paths ∨
        ∃ file ∈ (of cwd' document settings).settings, Heeded cwd file paths := by
    cases settings <;> simp [of]
  refine ⟨?_, ?_, fun file hf => heeded_absolute_iff hf paths⟩
  · rcases (of cwd' document settings).classify_cases cwd kind paths with ⟨hk, hc⟩ |
      ⟨hk, hd, hc⟩ | ⟨hk, hd, hs, hc⟩ | ⟨hk, hd, hs, hc⟩ <;> rw [hc]
    · simp [hk]
    · exact iff_of_true rfl ⟨hk, hd⟩
    · exact iff_of_false (by simp) fun h => hd h.2
    · exact iff_of_false (by simp) fun h => hd h.2
  · rw [hwatched]
    rcases (of cwd' document settings).classify_cases cwd kind paths with ⟨hk, hc⟩ |
      ⟨hk, hd, hc⟩ | ⟨hk, hd, hs, hc⟩ | ⟨hk, hd, hs, hc⟩ <;> rw [hc]
    · simp [hk]
    · exact iff_of_true rfl ⟨hk, .inl hd⟩
    · exact iff_of_true rfl ⟨hk, .inr hs⟩
    · exact iff_of_false (by simp) fun h => h.2.elim hd hs

/-- Changes of a document whose name starts with a dot, and of a settings file whose name ends as
those of backups do, are dropped. -/
theorem classify_drops_watched :
    let document := "/w/.note.md".toList
    let settings := "/w/live.bak".toList
    EventKind.modify.changesContent = true ∧ document ∈ [document, settings] ∧
      settings ∈ [document, settings] ∧
      (of (some "/w".toList) document (some settings)).classify (some "/w".toList) .modify
        [document, settings] = none := by
  decide +kernel

/-- A document named where the program runs, and told of from the root on. -/
example : (of (some "/home/u".toList) "note.md".toList none).classify (some "/home/u".toList)
    .modify ["/home/u/note.md".toList] = some (.changed .save) := by
  decide +kernel

/-! ## The set of the paths -/

theorem heeded_document_iff :
    Heeded cwd t.document paths ↔
      ∃ p ∈ paths, isTemporary p = false ∧ t.isDocument cwd p = true := by
  rw [← t.any_isDocument_iff]
  simp

theorem heeded_settings_iff :
    (∃ settings ∈ t.settings, Heeded cwd settings paths) ↔
      ∃ p ∈ paths, isTemporary p = false ∧ t.isSettings cwd p = true := by
  rw [← t.any_isSettings_iff]
  simp

/-- A path that can make an event a signal: it is watched, and it is not temporary. -/
def Counts (path : List Char) : Prop :=
  isTemporary path = false ∧ (t.isDocument cwd path = true ∨ t.isSettings cwd path = true)

variable {paths} {paths' : List (List Char)}

/-- Paths of which the same count are told as the same. -/
theorem classify_congr (h : ∀ p, t.Counts cwd p → (p ∈ paths' ↔ p ∈ paths)) :
    t.classify cwd kind paths' = t.classify cwd kind paths := by
  have hdocument : ((paths'.filter fun p => !isTemporary p).any (t.isDocument cwd)) =
      (paths.filter fun p => !isTemporary p).any (t.isDocument cwd) := by
    rw [Bool.eq_iff_iff, any_isDocument_iff, any_isDocument_iff, heeded_document_iff,
      heeded_document_iff]
    exact exists_congr fun p => and_congr_left fun hp => h p ⟨hp.1, .inl hp.2⟩
  have hsettings : ((paths'.filter fun p => !isTemporary p).any (t.isSettings cwd)) =
      (paths.filter fun p => !isTemporary p).any (t.isSettings cwd) := by
    rw [Bool.eq_iff_iff, any_isSettings_iff, any_isSettings_iff, heeded_settings_iff,
      heeded_settings_iff]
    exact exists_congr fun p => and_congr_left fun hp => h p ⟨hp.1, .inr hp.2⟩
  rw [classify, classify, signalOf_eq, signalOf_eq, hdocument, hsettings]

variable (paths)

/-- **What is told of an event depends on the set of its paths.** If the event may have changed
content, it is a save if a path that is not temporary is the document, otherwise a change of the
settings if one is the settings file, and otherwise nothing; any other event is nothing. Paths of
which the same count are told as the same: in another order, with a path told twice, and with one
more that is temporary or not watched. -/
theorem classify_reads_set :
    (kind.changesContent = true →
      ((∃ p ∈ paths, isTemporary p = false ∧ t.isDocument cwd p = true) →
        t.classify cwd kind paths = some (.changed .save)) ∧
      ((¬ ∃ p ∈ paths, isTemporary p = false ∧ t.isDocument cwd p = true) →
        (∃ p ∈ paths, isTemporary p = false ∧ t.isSettings cwd p = true) →
        t.classify cwd kind paths = some .settingsChanged) ∧
      ((¬ ∃ p ∈ paths, isTemporary p = false ∧ t.isDocument cwd p = true) →
        (¬ ∃ p ∈ paths, isTemporary p = false ∧ t.isSettings cwd p = true) →
        t.classify cwd kind paths = none)) ∧
    (kind.changesContent = false → t.classify cwd kind paths = none) ∧
    (∀ paths', (∀ p, t.Counts cwd p → (p ∈ paths' ↔ p ∈ paths)) →
      t.classify cwd kind paths' = t.classify cwd kind paths) ∧
    (∀ paths', paths'.Perm paths → t.classify cwd kind paths' = t.classify cwd kind paths) ∧
    ∀ p, p ∈ paths ∨ isTemporary p = true ∨
        t.isDocument cwd p = false ∧ t.isSettings cwd p = false →
      t.classify cwd kind (p :: paths) = t.classify cwd kind paths := by
  rw [← t.heeded_document_iff, ← t.heeded_settings_iff]
  refine ⟨fun hk => ?_, fun hk => ?_, fun _ => t.classify_congr cwd kind, fun _ hp => ?_, ?_⟩
  · rcases t.classify_cases cwd kind paths with ⟨hk', -⟩ | ⟨-, hd, hc⟩ | ⟨-, hd, hs, hc⟩ |
      ⟨-, hd, hs, hc⟩
    · rw [hk] at hk'
      cases hk'
    · exact ⟨fun _ => hc, fun hn => absurd hd hn, fun hn => absurd hd hn⟩
    · exact ⟨fun h => absurd h hd, fun _ _ => hc, fun _ hn => absurd hs hn⟩
    · exact ⟨fun h => absurd h hd, fun _ h => absurd h hs, fun _ _ => hc⟩
  · rw [classify, hk]
    rfl
  · exact t.classify_congr cwd kind fun _ _ => hp.mem_iff
  · rintro p hp
    refine t.classify_congr cwd kind fun q hq => ?_
    rw [List.mem_cons, or_iff_right_iff_imp]
    rintro rfl
    rcases hp with hp | ht | ⟨hd, hs⟩
    · exact hp
    · rw [hq.1] at ht
      cases ht
    · rcases hq.2 with hq | hq
      · rw [hd] at hq
        cases hq
      · rw [hs] at hq
        cases hq

/-- A rename over the settings file, told twice with a swap file. -/
example : (of (some "/w".toList) "note.md".toList (some "/w/a.toml".toList)).classify
    (some "/w".toList) .modify
    ["a.toml".toList, "/w/./a.toml".toList, "/w/.note.md.swp".toList, "/w//a.toml".toList] =
      some .settingsChanged := by
  decide +kernel

end Targets

end LivePreview.Watch
