import LivePreview.Settings.Handle

/-!
# The settings in force

How the settings in force follow the settings file, through loads and reloads.

1. `settingsOf?` says what settings a content makes. Loading a file puts these in force, and a file
   that is not there makes what an empty one makes.
2. A run keeps the file, the handle and the loads that have put settings in force. The handle holds
   the settings of the latest load and the digest of the latest one whose digest was noted
   (`Settled`).
3. Digests are taken to tell contents apart as far as a run goes (`Apart`). A reload then answers
   that nothing has changed exactly if the file has the content that was noted.
4. Loading at the start notes nothing where there is no file. Hence reloads keep up with the file if
   settings are loaded once (`settings_follow_file`), and what is noted can be out of date if they
   are loaded again (`reload_answers_from_note`, `reload_misses_changes`).
-/

namespace LivePreview.Settings

open Console (Note)
open Files (FileError)

deriving instance DecidableEq for Except

/-- The settings that a content makes under overrides, if it can be used. -/
def settingsOf? (overrides : Layer) (content : ByteArray) : Option Settings :=
  match Text.decode? content with
  | none => none
  | some text =>
    match readDocument text.toList with
    | .error _ => none
    | .ok (layer, _) => some (ofLayer (overrides.onto layer)).1

/-- An empty file says nothing. -/
theorem settingsOf?_empty (overrides : Layer) :
    settingsOf? overrides .empty = some (ofLayer (overrides.onto .empty)).1 := by
  unfold settingsOf?
  rw [show Text.decode? .empty = some "" by decide +kernel]
  rfl

/-- What is loaded is what the content makes that counts. -/
theorem settingsOf?_of_load {path : String} {overrides : Layer}
    {file : Except FileError ByteArray} {settings : Settings} {notes : List Note}
    (h : load path overrides file = .ok (settings, notes)) :
    settingsOf? overrides (Handle.contentOf file) = some settings := by
  unfold load readContent at h
  cases file with
  | ok bytes =>
    unfold settingsOf? Handle.contentOf
    dsimp only [Files.textOf] at h ⊢
    cases hd : Text.decode? bytes with
    | none => rw [hd] at h; cases h
    | some text =>
      rw [hd] at h
      dsimp only at h ⊢
      cases hr : readDocument text.toList with
      | error e => rw [hr] at h; cases h
      | ok read => rw [hr] at h; cases h; rfl
  | error e =>
    refine (settingsOf?_empty overrides).trans ?_
    cases e <;> cases h <;> rfl

/-- All that a reload can come to. -/
theorem Handle.reload_cases (path : String) (overrides : Layer) (file : Except FileError ByteArray)
    (h : Handle) :
    (digestOf (contentOf file) = h.digest ∧ h.reload path overrides file = (.ok none, h)) ∨
    digestOf (contentOf file) ≠ h.digest ∧
      ((∃ e, load path overrides file = .error e ∧
        h.reload path overrides file = (.error e, h)) ∨
      ∃ settings notes, load path overrides file = .ok (settings, notes) ∧
        h.reload path overrides file =
          (.ok (some (settings, notes)), ⟨settings, digestOf (contentOf file)⟩)) := by
  unfold reload
  by_cases hd : digestOf (contentOf file) = h.digest
  · exact .inl ⟨hd, if_pos hd⟩
  · refine .inr ⟨hd, ?_⟩
    dsimp only
    rw [if_neg hd]
    cases load path overrides file with
    | error e => exact .inl ⟨e, rfl, rfl⟩
    | ok loaded => exact .inr ⟨loaded.1, loaded.2, rfl, rfl⟩

namespace Handle

theorem init_current (h : Handle) (settings : Settings) (file : Except FileError ByteArray) :
    (h.init settings file).current = settings := by
  cases file <;> rfl

/-- Loading at the start notes the digest of a file that can be read. -/
theorem init_digest (h : Handle) (settings : Settings) (file : Except FileError ByteArray) :
    (h.init settings file).digest = if file.isOk then digestOf (contentOf file) else h.digest := by
  cases file with
  | ok bytes => exact (if_pos rfl).symm
  | error e => exact (if_neg Bool.false_ne_true).symm

/-! ## Runs -/

/-- What is done with a settings file and the settings from it. -/
inductive Step where
  /-- The file changes; what reading it answers from now on. -/
  | change (file : Except FileError ByteArray)
  /-- The file is loaded and its settings are put in force, if it can be loaded. -/
  | init
  | reload

/-- A load that has put settings in force. -/
structure Load where
  file : Except FileError ByteArray
  isReload : Bool

/-- Loads are compared byte by byte. -/
instance : DecidableEq Load
  | ⟨file, isReload⟩, ⟨file', isReload'⟩ =>
    letI := ByteArray.instDecidableEq
    decidable_of_decidable_of_eq (Load.mk.injEq file isReload file' isReload').symm

/-- The digest of the content was noted. -/
def Load.isNoted (l : Load) : Bool := l.isReload || l.file.isOk

/-- The content that was noted last. -/
def noted : List Load → Option ByteArray
  | [] => none
  | l :: before => if l.isNoted then some (contentOf l.file) else noted before

theorem noted_cons (l : Load) (before : List Load) :
    noted (l :: before) = if l.isNoted then some (contentOf l.file) else noted before := rfl

/-- A file, the settings from it, and the loads so far, latest first. -/
structure Run where
  file : Except FileError ByteArray
  handle : Handle
  loads : List Load

namespace Run

/-- A reload has answered settings. -/
def hasLoaded : Except LoadError (Option (Settings × List Note)) → Bool
  | .ok (some _) => true
  | _ => false

/-- A run behind another step. -/
def take (path : String) (overrides : Layer) (r : Run) : Step → Run
  | .change file => { r with file := file }
  | .init =>
    match load path overrides r.file with
    | .ok (settings, _) => ⟨r.file, r.handle.init settings r.file, ⟨r.file, false⟩ :: r.loads⟩
    | .error _ => r
  | .reload =>
    let answered := r.handle.reload path overrides r.file
    ⟨r.file, answered.2, if hasLoaded answered.1 then ⟨r.file, true⟩ :: r.loads else r.loads⟩

/-- A run behind some steps, latest first. -/
def behind (path : String) (overrides : Layer) (start : Run) : List Step → Run
  | [] => start
  | step :: before => (behind path overrides start before).take path overrides step

/-- A run at the start of the program. -/
def opened (file : Except FileError ByteArray) : Run := ⟨file, initial, []⟩

end Run

/-- The contents that count in a run, the empty one included. -/
def contents (file : Except FileError ByteArray) : List Step → List ByteArray
  | [] => [.empty, contentOf file]
  | .change file' :: before => contentOf file' :: contents file before
  | _ :: before => contents file before

/-- Some contents have different digests, and none has that of no content. -/
def Apart (contents : List ByteArray) : Prop :=
  ∀ a ∈ contents, digestOf a ≠ 0 ∧ ∀ b ∈ contents, digestOf a = digestOf b → a = b

instance (contents : List ByteArray) : Decidable (Apart contents) :=
  inferInstanceAs (Decidable (∀ a ∈ contents, _ ∧ ∀ b ∈ contents, _))

/-- How a handle stands to the loads before. -/
structure Settled (overrides : Layer) (contents : List ByteArray) (r : Run) : Prop where
  file : contentOf r.file ∈ contents
  noted : ∀ content, noted r.loads = some content → content ∈ contents
  /-- The digest is that of the content that was noted. -/
  digest : r.handle.digest = ((Handle.noted r.loads).map digestOf).getD 0
  /-- The settings are those of the latest load. -/
  current : ∀ l before, r.loads = l :: before →
    settingsOf? overrides (contentOf l.file) = some r.handle.current

section

variable {path : String} {overrides : Layer} {contents : List ByteArray} {r : Run}

theorem Settled.opened {file : Except FileError ByteArray} (h : contentOf file ∈ contents) :
    Settled overrides contents (.opened file) where
  file := h
  noted _ hn := nomatch hn
  digest := rfl
  current _ _ hl := nomatch hl

/-- A load keeps how the handle stands to the loads, if the digest is noted with the content. -/
theorem Settled.loaded (h : Settled overrides contents r) {settings : Settings} {notes : List Note}
    {handle : Handle} {l : Load} (hl : load path overrides l.file = .ok (settings, notes))
    (hfile : l.file = r.file) (hcurrent : handle.current = settings)
    (hdigest : handle.digest = if l.isNoted then digestOf (contentOf l.file) else r.handle.digest) :
    Settled overrides contents ⟨r.file, handle, l :: r.loads⟩ := by
  refine ⟨h.file, fun content hn => ?_, ?_, fun l' before he => ?_⟩
  · rw [noted_cons, hfile] at hn
    by_cases hl : l.isNoted = true
    · rw [if_pos hl] at hn
      cases hn
      exact h.file
    · rw [if_neg hl] at hn
      exact h.noted content hn
  · rw [noted_cons, hdigest]
    by_cases hl : l.isNoted = true
    · rw [if_pos hl, if_pos hl, Option.map_some, Option.getD_some]
    · rw [if_neg hl, if_neg hl]
      exact h.digest
  · cases he
    rw [hcurrent]
    exact settingsOf?_of_load hl

/-- Every step keeps how the handle stands to the loads. -/
theorem Settled.take (h : Settled overrides contents r) {step : Step}
    (hc : ∀ file, step = .change file → contentOf file ∈ contents) :
    Settled overrides contents (r.take path overrides step) := by
  cases step with
  | change file => exact ⟨hc file rfl, h.noted, h.digest, h.current⟩
  | init =>
    unfold Run.take
    dsimp only
    cases hl : load path overrides r.file with
    | error e => exact h
    | ok loaded =>
      exact h.loaded hl rfl (init_current r.handle loaded.1 r.file)
        (init_digest r.handle loaded.1 r.file)
  | reload =>
    rw [Run.take]
    rcases reload_cases path overrides r.file r.handle with ⟨-, hr⟩ | ⟨-, ⟨e, -, hr⟩ | hr⟩
    · rw [hr]
      exact h
    · rw [hr]
      exact h
    · obtain ⟨settings, notes, hl, hr⟩ := hr
      rw [hr]
      exact h.loaded hl rfl rfl (if_pos rfl).symm

/-- Every run keeps how the handle stands to the loads. -/
theorem Settled.behind (h : Settled overrides contents r) {steps : List Step}
    (hc : ∀ file, .change file ∈ steps → contentOf file ∈ contents) :
    Settled overrides contents (.behind path overrides r steps) := by
  induction steps with
  | nil => exact h
  | cons step before ih =>
    refine (ih fun file hm => hc file (List.mem_cons_of_mem _ hm)).take fun file he => ?_
    exact hc file (he ▸ List.mem_cons_self)

theorem mem_contents_of_change {start file : Except FileError ByteArray} {steps : List Step}
    (h : .change file ∈ steps) : contentOf file ∈ Handle.contents start steps := by
  induction steps with
  | nil => cases h
  | cons step before ih =>
    rcases List.mem_cons.mp h with rfl | hm
    · exact List.mem_cons_self
    · cases step with
      | change other => exact List.mem_cons_of_mem _ (ih hm)
      | init | reload => exact ih hm

theorem mem_contents_of_start (start : Except FileError ByteArray) (steps : List Step) :
    contentOf start ∈ Handle.contents start steps ∧ .empty ∈ Handle.contents start steps := by
  induction steps with
  | nil => exact ⟨List.mem_cons_of_mem _ List.mem_cons_self, List.mem_cons_self⟩
  | cons step before ih =>
    cases step with
    | change other => exact ih.imp (List.mem_cons_of_mem _) (List.mem_cons_of_mem _)
    | init | reload => exact ih

/-- Nothing has changed, says a reload, if the file has the content that was noted. -/
theorem Settled.reload_eq_none_iff (h : Settled overrides contents r) (ha : Apart contents) :
    (r.handle.reload path overrides r.file).1 = .ok none ↔
      Handle.noted r.loads = some (contentOf r.file) := by
  have hdigest : digestOf (contentOf r.file) = r.handle.digest ↔
      Handle.noted r.loads = some (contentOf r.file) := by
    rw [h.digest]
    cases hn : Handle.noted r.loads with
    | none => exact iff_of_false (ha _ h.file).1 nofun
    | some content =>
      rw [Option.map_some, Option.getD_some, Option.some.injEq]
      exact ⟨fun he => ((ha _ h.file).2 content (h.noted content hn) he).symm, fun he => he ▸ rfl⟩
  rcases reload_cases path overrides r.file r.handle with ⟨hd, hr⟩ | ⟨hd, ⟨e, -, hr⟩ | hr⟩
  · rw [hr]
    exact iff_of_true rfl (hdigest.mp hd)
  · rw [hr]
    exact iff_of_false nofun (mt hdigest.mpr hd)
  · obtain ⟨settings, notes, -, hr⟩ := hr
    rw [hr]
    exact iff_of_false nofun (mt hdigest.mpr hd)

/-! ## Loading once -/

/-- Loading at the start of the program puts what has been loaded in force. -/
theorem Run.take_init_opened {file : Except FileError ByteArray} {settings : Settings}
    {notes : List Note} (h : load path overrides file = .ok (settings, notes)) :
    (Run.opened file).take path overrides .init =
      ⟨file, initial.init settings file, [⟨file, false⟩]⟩ := by
  unfold Run.take Run.opened
  dsimp only
  rw [h]

/-- The latest load is that of the content that was noted, or of a file that counts as empty if none
was. -/
def Followed (loads : List Load) : Prop :=
  ∃ l before, loads = l :: before ∧ (noted loads).getD .empty = contentOf l.file

/-- Whatever loading notes at the start, the settings come from it. -/
theorem followed_init (file : Except FileError ByteArray) : Followed [⟨file, false⟩] :=
  ⟨⟨file, false⟩, [], rfl, by cases file <;> rfl⟩

/-- Reloads note what they load. -/
theorem Followed.take (h : Followed r.loads) {step : Step} (hs : step ≠ .init) :
    Followed (r.take path overrides step).loads := by
  cases step with
  | change file => exact h
  | init => exact absurd rfl hs
  | reload =>
    rw [Run.take]
    generalize Run.hasLoaded (r.handle.reload path overrides r.file).1 = loaded
    cases loaded with
    | false => exact h
    | true => exact ⟨⟨r.file, true⟩, r.loads, rfl, rfl⟩

theorem Followed.behind (h : Followed r.loads) {steps : List Step} (hs : .init ∉ steps) :
    Followed (Run.behind path overrides r steps).loads := by
  induction steps with
  | nil => exact h
  | cons step before ih =>
    exact (ih fun hm => hs (List.mem_cons_of_mem _ hm)).take
      fun he => hs (he ▸ List.mem_cons_self)

/-- A reload that fails leaves everything as it is. -/
theorem reload_error {file : Except FileError ByteArray} {h : Handle} {e : LoadError}
    (he : (h.reload path overrides file).1 = .error e) :
    (h.reload path overrides file).2 = h := by
  rcases reload_cases path overrides file h with ⟨-, hr⟩ | ⟨-, ⟨_, -, hr⟩ | hr⟩
  · rw [hr]
  · rw [hr]
  · obtain ⟨settings, notes, -, hr⟩ := hr
    rw [hr] at he
    cases he

/-- A reload that does not fail leaves the settings of the content that the file has. -/
theorem Settled.reload_ok (h : Settled overrides contents r) (hf : Followed r.loads)
    (ha : Apart contents) {answer : Option (Settings × List Note)}
    (he : (r.handle.reload path overrides r.file).1 = .ok answer) :
    settingsOf? overrides (contentOf r.file) =
        some (r.handle.reload path overrides r.file).2.current ∧
      ∀ loaded, answer = some loaded →
        loaded.1 = (r.handle.reload path overrides r.file).2.current := by
  have hnone : (r.handle.reload path overrides r.file).1 = .ok none ↔ _ :=
    h.reload_eq_none_iff ha
  rcases reload_cases path overrides r.file r.handle with ⟨-, hr⟩ | ⟨-, ⟨_, -, hr⟩ | hr⟩
  · -- What was noted is what the file has, and the latest load was of that.
    obtain ⟨l, before, hl, hnoted⟩ := hf
    rw [hr] at he hnone ⊢
    rw [hnone.mp rfl, Option.getD_some] at hnoted
    cases he
    exact ⟨hnoted ▸ h.current l before hl, nofun⟩
  · rw [hr] at he
    cases he
  · obtain ⟨settings, notes, hload, hr⟩ := hr
    rw [hr] at he ⊢
    cases he
    exact ⟨settingsOf?_of_load hload, fun loaded h => by cases h; rfl⟩

end

/-- Settings that are loaded once and then reloaded follow the file. A reload that fails keeps the
settings and the digest; any other leaves the settings of the content that the file has. At all
times the settings are those of the content that was loaded last. -/
theorem settings_follow_file (path : String) (overrides : Layer)
    (file : Except FileError ByteArray) (settings : Settings) (notes : List Note)
    (steps : List Step) (hload : load path overrides file = .ok (settings, notes))
    (hs : .init ∉ steps) (hd : Apart (contents file steps)) :
    let r := Run.behind path overrides ((Run.opened file).take path overrides .init) steps
    (∀ e, (r.handle.reload path overrides r.file).1 = .error e →
      (r.handle.reload path overrides r.file).2 = r.handle) ∧
    (∀ answer, (r.handle.reload path overrides r.file).1 = .ok answer →
      settingsOf? overrides (contentOf r.file) =
          some (r.handle.reload path overrides r.file).2.current ∧
        ∀ loaded, answer = some loaded →
          loaded.1 = (r.handle.reload path overrides r.file).2.current) ∧
    ∃ l before, r.loads = l :: before ∧
      settingsOf? overrides (contentOf l.file) = some r.handle.current := by
  have hstart : Settled overrides (contents file steps)
      ((Run.opened file).take path overrides .init) :=
    (Settled.opened (mem_contents_of_start file steps).1).take fun _ he => nomatch he
  have hsettled : Settled overrides (contents file steps)
      (Run.behind path overrides ((Run.opened file).take path overrides .init) steps) :=
    hstart.behind fun _ => mem_contents_of_change
  have hfollowed : Followed (Run.behind path overrides
      ((Run.opened file).take path overrides .init) steps).loads := by
    refine Followed.behind ?_ hs
    rw [Run.take_init_opened hload]
    exact followed_init file
  refine ⟨fun _ => reload_error, fun _ => hsettled.reload_ok hfollowed hd, ?_⟩
  obtain ⟨l, before, hl, -⟩ := hfollowed
  exact ⟨l, before, hl, hsettled.current l before hl⟩

/-- A file that becomes a directory, then text that is no document, then bytes that are no text, and
is removed. -/
theorem settings_follow_file_broken :
    let file : Except FileError ByteArray := .ok "debounce_milliseconds = 300".toUTF8
    let steps : List Step :=
      [.reload, .change (.error .notFound), .reload, .change (.ok ⟨#[0xff]⟩),
        .reload, .change (.ok "a =".toUTF8), .reload, .change (.error .isDirectory), .reload]
    let r := Run.behind "a" .empty ((Run.opened file).take "a" .empty .init) steps
    load "a" .empty file = .ok (⟨300, 100, false⟩, []) ∧ .init ∉ steps ∧
      Apart (contents file steps) ∧
      ∃ l before, r.loads = l :: before ∧
        settingsOf? .empty (contentOf l.file) = some r.handle.current := by
  intro file steps r
  have hload : load "a" .empty file = .ok (⟨300, 100, false⟩, []) := by decide +kernel
  have hs : .init ∉ steps := by simp [steps]
  have hd : Apart (contents file steps) := by decide +kernel
  exact ⟨hload, hs, hd, (settings_follow_file "a" .empty file _ _ steps hload hs hd).2.2⟩

/-- A reload answers that nothing has changed exactly if the file has the content that was noted
last. That is the content of the latest load if it was noted; the settings in force are always of
the latest load. -/
theorem reload_answers_from_note (path : String) (overrides : Layer)
    (file : Except FileError ByteArray) (steps : List Step) (hd : Apart (contents file steps)) :
    let r := Run.behind path overrides (.opened file) steps
    ((r.handle.reload path overrides r.file).1 = .ok none ↔
      noted r.loads = some (contentOf r.file)) ∧
    ∀ l before, r.loads = l :: before →
      settingsOf? overrides (contentOf l.file) = some r.handle.current ∧
      (l.isNoted = true → ((r.handle.reload path overrides r.file).1 = .ok none ↔
        contentOf r.file = contentOf l.file)) := by
  have hstart : Settled overrides (contents file steps) (.opened file) :=
    .opened (mem_contents_of_start file steps).1
  have hsettled : Settled overrides (contents file steps)
      (Run.behind path overrides (.opened file) steps) :=
    hstart.behind fun _ => mem_contents_of_change
  refine ⟨hsettled.reload_eq_none_iff hd, fun l before hl => ⟨hsettled.current l before hl, ?_⟩⟩
  intro hn
  rw [hsettled.reload_eq_none_iff hd, hl, noted_cons, if_pos hn, Option.some.injEq]
  exact eq_comm

/-- Settings that are loaded, and loaded again without a file. -/
theorem reload_answers_from_note_removed :
    let file : Except FileError ByteArray := .ok "debounce_milliseconds = 300".toUTF8
    let steps : List Step := [.init, .change (.error .notFound), .init]
    let r := Run.behind "a" .empty (.opened file) steps
    Apart (contents file steps) ∧ (r.handle.reload "a" .empty r.file).1 ≠ .ok none := by
  intro file steps r
  have hd : Apart (contents file steps) := by decide +kernel
  have hnoted : noted r.loads ≠ some (contentOf r.file) := by decide +kernel
  exact ⟨hd, mt (reload_answers_from_note "a" .empty file steps hd).1.mp hnoted⟩

/-- The content that was noted need not be that of the latest load. Without a file a reload right
after loading answers settings again; and settings that were loaded before the file was removed are
not answered when the file comes back. -/
theorem reload_misses_changes :
    let start : Except FileError ByteArray := .error .notFound
    let file : Except FileError ByteArray := .ok "debounce_milliseconds = 300".toUTF8
    let back : List Step := [.change file, .init, .change start, .init, .change file]
    let r := Run.behind "a" .empty (.opened start) [.init]
    let r' := Run.behind "a" .empty (.opened start) back
    Apart (contents start [.init]) ∧ r.loads = [⟨r.file, false⟩] ∧
      (r.handle.reload "a" .empty r.file).1 ≠ .ok none ∧
    Apart (contents start back) ∧ r'.loads.head?.map (contentOf ·.file) = some .empty ∧
      contentOf r'.file ≠ .empty ∧ (r'.handle.reload "a" .empty r'.file).1 = .ok none := by
  dsimp only
  decide +kernel

end Handle

end LivePreview.Settings
