import LivePreview.Proofs.Settings.InForce

/-!
# Validated settings

1. The settings have two numbers (`Quantity`). What counts of a number is what the upper layer says,
   and what the lower one says only if the upper one says nothing (`Counts`).
2. A number that counts and is in its range is taken, and the fallback is taken for any other
   (`Range.settle_cases`). Hence the settings of layers are in range, and there is one warning for
   each number that counts and is not (`mem_warnings_iff`, `sublist_warnings`).
3. Settings in range are kept as they are when they are validated again, and no others are
   (`ofLayer_toLayer_iff`). Layers form a monoid, with the one on top to the left.
4. A process loads files, puts settings that it has loaded in force, and reloads, in any order and
   from any files. What it holds is in range at all times (`Holding.sound_behind`).
-/

namespace LivePreview.Settings

open Console (Note)
open Files (FileError)

/-! ## Numbers and what is said of them -/

/-- The settings that are numbers. -/
inductive Quantity where
  | debounce
  | loopGuard
deriving DecidableEq, Repr

namespace Quantity

/-- What the number has to be between. -/
def range : Quantity → Range
  | debounce => debounceRange
  | loopGuard => loopGuardRange

/-- The name of the number in files. -/
def field : Quantity → String
  | debounce => debounceField
  | loopGuard => loopGuardField

/-- What a layer says of the number. -/
def said : Quantity → Layer → Option Int
  | debounce => Layer.debounce
  | loopGuard => Layer.loopGuard

/-- The number in settings. -/
def value : Quantity → Settings → Nat
  | debounce => Settings.debounce
  | loopGuard => Settings.loopGuard

end Quantity

/-- A value is between the ends of a range. -/
def Range.Has (r : Range) (v : Int) : Prop := r.least ≤ v ∧ v ≤ r.most

instance (r : Range) (v : Int) : Decidable (r.Has v) := inferInstanceAs (Decidable (_ ∧ _))

/-- A value counts for a number: the upper layer says it, or the lower one does and the upper one
says nothing. -/
def Counts (upper lower : Layer) (q : Quantity) (v : Int) : Prop :=
  q.said upper = some v ∨ q.said upper = none ∧ q.said lower = some v

/-- Settings with both numbers in range. -/
structure InRange (s : Settings) : Prop where
  debounce : 100 ≤ s.debounce ∧ s.debounce ≤ 2000
  loopGuard : 50 ≤ s.loopGuard ∧ s.loopGuard ≤ 1000

theorem inRange_iff {s : Settings} : InRange s ↔ ∀ q : Quantity, q.range.Has (q.value s) := by
  constructor
  · intro h q
    cases q with
    | debounce => exact h.debounce.imp Int.ofNat_le.mpr Int.ofNat_le.mpr
    | loopGuard => exact h.loopGuard.imp Int.ofNat_le.mpr Int.ofNat_le.mpr
  · intro h
    exact ⟨(h .debounce).imp Int.ofNat_le.mp Int.ofNat_le.mp,
      (h .loopGuard).imp Int.ofNat_le.mp Int.ofNat_le.mp⟩

/-- The fallback of a number is in its range. -/
theorem has_fallback (q : Quantity) : q.range.Has q.range.fallback := by
  cases q <;> decide

/-! ## Layers -/

theorem Layer.onto_assoc (a b c : Layer) : (a.onto b).onto c = a.onto (b.onto c) := by
  simp [onto, Option.or_assoc]

theorem Layer.empty_onto (a : Layer) : empty.onto a = a := by
  simp [onto, empty]

theorem Layer.onto_empty (a : Layer) : a.onto empty = a := by
  simp [onto, empty]

/-- What one layer over another says is what counts. -/
theorem said_onto_iff {upper lower : Layer} {q : Quantity} {v : Int} :
    q.said (upper.onto lower) = some v ↔ Counts upper lower q v := by
  have hsaid : q.said (upper.onto lower) = (q.said upper).or (q.said lower) := by
    cases q <;> simp [Quantity.said, Layer.onto]
  rw [hsaid, Option.or_eq_some_iff, Counts]

/-! ## Settling -/

/-- All that a value can be settled to. -/
theorem Range.settle_cases (r : Range) (field : String) (value : Option Int) :
    (∃ v, value = some v ∧ r.Has v ∧ r.settle field value = (v.toNat, [])) ∨
    (∃ v, value = some v ∧ ¬ r.Has v ∧ r.settle field value = (r.fallback, [⟨field, v, r⟩])) ∨
    (value = none ∧ r.settle field value = (r.fallback, [])) := by
  cases value with
  | none => exact .inr (.inr ⟨rfl, rfl⟩)
  | some v =>
    by_cases h : r.Has v
    · exact .inl ⟨v, rfl, h, if_pos h⟩
    · exact .inr (.inl ⟨v, rfl, h, if_neg h⟩)

section

variable (l : Layer) (q : Quantity)

theorem value_ofLayer :
    q.value (ofLayer l).1 = (q.range.settle q.field (q.said l)).1 := by
  cases q <;> rfl

theorem warnings_ofLayer :
    (ofLayer l).2 = (Quantity.debounce.range.settle Quantity.debounce.field
        (Quantity.debounce.said l)).2 ++
      (Quantity.loopGuard.range.settle Quantity.loopGuard.field (Quantity.loopGuard.said l)).2 :=
  rfl

variable {l q}

/-- What is said in range is taken. -/
theorem value_of_has {v : Int} (hl : q.said l = some v) (h : q.range.Has v) :
    (q.value (ofLayer l).1 : Int) = v := by
  have hpos : 0 ≤ v := by
    have hleast := h.1
    omega
  rw [value_ofLayer]
  rcases q.range.settle_cases q.field (q.said l) with ⟨w, hw, -, hs⟩ | ⟨w, hw, hn, -⟩ | ⟨hw, -⟩
  · rw [hl, Option.some.injEq] at hw
    rw [hs, ← hw]
    exact Int.toNat_of_nonneg hpos
  · rw [hl, Option.some.injEq] at hw
    exact absurd (hw ▸ h) hn
  · rw [hl] at hw
    cases hw

/-- For anything else the fallback is taken. -/
theorem value_of_not_has (h : ∀ v, q.said l = some v → ¬ q.range.Has v) :
    q.value (ofLayer l).1 = q.range.fallback := by
  rw [value_ofLayer]
  rcases q.range.settle_cases q.field (q.said l) with ⟨w, hw, hn, -⟩ | ⟨w, -, -, hs⟩ | ⟨-, hs⟩
  · exact absurd hn (h w hw)
  · rw [hs]
  · rw [hs]

variable (l)

/-- Settings that a layer makes are in range. -/
theorem inRange_ofLayer : InRange (ofLayer l).1 := by
  refine inRange_iff.mpr fun q => ?_
  by_cases h : ∃ v, q.said l = some v ∧ q.range.Has v
  · obtain ⟨v, hl, hv⟩ := h
    rw [value_of_has hl hv]
    exact hv
  · rw [value_of_not_has fun v hl hv => h ⟨v, hl, hv⟩]
    exact has_fallback q

theorem mem_settle_iff {w : Warning} :
    w ∈ (q.range.settle q.field (q.said l)).2 ↔
      ∃ v, q.said l = some v ∧ ¬ q.range.Has v ∧ w = ⟨q.field, v, q.range⟩ := by
  rcases q.range.settle_cases q.field (q.said l) with ⟨v, hl, hv, hs⟩ | ⟨v, hl, hv, hs⟩ | ⟨hl, hs⟩
  · rw [hs]
    simp [hl, hv]
  · rw [hs]
    simp [hl, hv]
  · rw [hs]
    simp [hl]

/-- There is a warning for a number that is out of range, and for no other. -/
theorem mem_warnings_iff {w : Warning} :
    w ∈ (ofLayer l).2 ↔
      ∃ q : Quantity, ∃ v, q.said l = some v ∧ ¬ q.range.Has v ∧ w = ⟨q.field, v, q.range⟩ := by
  rw [warnings_ofLayer, List.mem_append, mem_settle_iff, mem_settle_iff]
  constructor
  · rintro (h | h)
    · exact ⟨.debounce, h⟩
    · exact ⟨.loopGuard, h⟩
  · rintro ⟨q, h⟩
    cases q with
    | debounce => exact .inl h
    | loopGuard => exact .inr h

theorem fields_settle :
    ((q.range.settle q.field (q.said l)).2.map Warning.field).Sublist [q.field] := by
  rcases q.range.settle_cases q.field (q.said l) with ⟨v, -, -, hs⟩ | ⟨v, -, -, hs⟩ | ⟨-, hs⟩ <;>
    simp [hs]

/-- The warnings are on different numbers, in the order of these. -/
theorem sublist_warnings :
    ((ofLayer l).2.map Warning.field).Sublist [debounceField, loopGuardField] := by
  rw [warnings_ofLayer, List.map_append]
  exact (fields_settle l).append (fields_settle l)

end

/-- Without warnings every number that is said is in range. -/
theorem has_of_no_warnings {l : Layer} (h : (ofLayer l).2 = []) {q : Quantity} {v : Int}
    (hl : q.said l = some v) : q.range.Has v := by
  refine Decidable.byContradiction fun hv => ?_
  have hmem := (mem_warnings_iff l).mpr ⟨q, v, hl, hv, rfl⟩
  rw [h] at hmem
  cases hmem

theorem said_toLayer (s : Settings) (q : Quantity) : q.said s.toLayer = some (q.value s : Int) := by
  cases q <;> rfl

/-- Validating settings again keeps them and calls for no warnings, exactly if they are in range. -/
theorem ofLayer_toLayer_iff {s : Settings} : ofLayer s.toLayer = (s, []) ↔ InRange s := by
  constructor
  · intro h
    exact inRange_iff.mpr fun q => has_of_no_warnings (congrArg Prod.snd h) (said_toLayer s q)
  · intro h
    have hvalue : ∀ q : Quantity, q.value (ofLayer s.toLayer).1 = q.value s := fun q =>
      Int.ofNat_inj.mp (value_of_has (said_toLayer s q) (inRange_iff.mp h q))
    have hwarnings : (ofLayer s.toLayer).2 = [] := by
      refine List.eq_nil_iff_forall_not_mem.mpr fun w hw => ?_
      obtain ⟨q, v, hv, hn, -⟩ := (mem_warnings_iff _).mp hw
      rw [said_toLayer, Option.some.injEq] at hv
      exact hn (hv ▸ inRange_iff.mp h q)
    have hsettings : (ofLayer s.toLayer).1 = s := by
      have hdebounce : (ofLayer s.toLayer).1.debounce = s.debounce := hvalue .debounce
      have hloopGuard : (ofLayer s.toLayer).1.loopGuard = s.loopGuard := hvalue .loopGuard
      have hsaveOnly : (ofLayer s.toLayer).1.saveOnly = s.saveOnly := rfl
      cases s
      cases hmade : (ofLayer _).1
      simp_all
    exact Prod.ext hsettings hwarnings

/-! ## What a process holds -/

/-- Settings that are loaded are in range. -/
theorem inRange_of_load {path : String} {overrides : Layer} {file : Except FileError ByteArray}
    {settings : Settings} {notes : List Note}
    (h : load path overrides file = .ok (settings, notes)) : InRange settings := by
  unfold load at h
  cases hr : readContent path file with
  | error e =>
    rw [hr] at h
    cases h
  | ok read =>
    rw [hr] at h
    cases h
    exact inRange_ofLayer _

/-- A reload leaves the settings in range. -/
theorem inRange_reload (path : String) (overrides : Layer) (file : Except FileError ByteArray)
    {h : Handle} (hr : InRange h.current) :
    InRange (h.reload path overrides file).2.current := by
  rcases Handle.reload_cases path overrides file h with
    ⟨-, he⟩ | ⟨-, ⟨e, -, he⟩ | ⟨settings, notes, hl, he⟩⟩
  · rw [he]
    exact hr
  · rw [he]
    exact hr
  · rw [he]
    exact inRange_of_load hl

/-- The settings that a process has loaded, latest first, and its handle. -/
structure Holding where
  loaded : List Settings
  handle : Handle

namespace Holding

/-- What a process does with settings. Every deed may find another file. -/
inductive Deed where
  | load (path : String) (overrides : Layer) (file : Except FileError ByteArray)
  /-- Settings that were loaded are put in force; 0 are the latest. -/
  | init (which : Nat) (file : Except FileError ByteArray)
  | reload (path : String) (overrides : Layer) (file : Except FileError ByteArray)

/-- What a process holds behind another deed. -/
def take (h : Holding) : Deed → Holding
  | .load path overrides file =>
    match Settings.load path overrides file with
    | .ok (settings, _) => { h with loaded := settings :: h.loaded }
    | .error _ => h
  | .init which file =>
    match h.loaded[which]? with
    | some settings => { h with handle := h.handle.init settings file }
    | none => h
  | .reload path overrides file => { h with handle := (h.handle.reload path overrides file).2 }

/-- What a process holds behind some deeds, latest first. -/
def behind : List Deed → Holding
  | [] => ⟨[], .initial⟩
  | deed :: before => (behind before).take deed

/-- All settings that are held are in range. -/
structure Sound (h : Holding) : Prop where
  current : InRange h.handle.current
  loaded : ∀ s ∈ h.loaded, InRange s

theorem Sound.put {h : Holding} (hs : h.Sound) {handle : Handle} (hh : InRange handle.current) :
    Sound ⟨h.loaded, handle⟩ :=
  ⟨hh, hs.loaded⟩

/-- Every deed keeps the settings in range. -/
theorem Sound.take {h : Holding} (hs : h.Sound) (deed : Deed) : (h.take deed).Sound := by
  cases deed with
  | load path overrides file =>
    rw [Holding.take]
    cases hl : Settings.load path overrides file with
    | error e => exact hs
    | ok loaded =>
      refine ⟨hs.current, fun s hm => ?_⟩
      rcases List.mem_cons.mp hm with rfl | hm
      · exact inRange_of_load hl
      · exact hs.loaded s hm
  | init which file =>
    rw [Holding.take]
    cases hw : h.loaded[which]? with
    | none => exact hs
    | some settings =>
      refine hs.put ?_
      rw [Handle.init_current]
      exact hs.loaded settings (List.mem_of_getElem? hw)
  | reload path overrides file =>
    rw [Holding.take]
    exact hs.put (inRange_reload path overrides file hs.current)

/-- Whatever a process does, the settings that it holds are in range. -/
theorem sound_behind (deeds : List Deed) : (behind deeds).Sound := by
  induction deeds with
  | nil => exact ⟨⟨by decide, by decide⟩, fun s hm => absurd hm List.not_mem_nil⟩
  | cons deed before ih => exact ih.take deed

end Holding

/-- **Settings are validated.** Of the settings of a file under overrides:

1. Both numbers are in range. Each is the override, or what the file says if there is no override,
   if that is in range; otherwise it is the default.
2. The warnings are one for each number that counts and is out of range, with that number, the one
   on the debounce first.
3. Validating them again keeps them, without warnings.

Laying layers over each other is associative, with the layer that says nothing as neutral element.
Hence, whatever is loaded, put in force and reloaded, the settings in force are in range. -/
theorem layers_make_settings_in_range (overrides file : Layer) :
    let made := ofLayer (overrides.onto file)
    InRange made.1 ∧
    (∀ q : Quantity,
      (∀ v, Counts overrides file q v → q.range.Has v → (q.value made.1 : Int) = v) ∧
      ((∀ v, Counts overrides file q v → ¬ q.range.Has v) →
        q.value made.1 = q.value Settings.default)) ∧
    (∀ w, w ∈ made.2 ↔ ∃ q : Quantity, ∃ v,
      Counts overrides file q v ∧ ¬ q.range.Has v ∧ w = ⟨q.field, v, q.range⟩) ∧
    (made.2.map Warning.field).Sublist [debounceField, loopGuardField] ∧
    ofLayer made.1.toLayer = (made.1, []) ∧
    (∀ top : Layer, (top.onto overrides).onto file = top.onto (overrides.onto file)) ∧
    Layer.empty.onto file = file ∧ file.onto .empty = file ∧
    ∀ deeds, InRange (Holding.behind deeds).handle.current := by
  intro made
  have hrange : InRange made.1 := inRange_ofLayer _
  refine ⟨hrange, fun q => ⟨fun v hc => value_of_has (said_onto_iff.mpr hc), fun hn => ?_⟩, ?_,
    sublist_warnings _, ofLayer_toLayer_iff.mpr hrange, fun top => top.onto_assoc overrides file,
    file.empty_onto, file.onto_empty, fun deeds => (Holding.sound_behind deeds).current⟩
  · have hdefault : q.value Settings.default = q.range.fallback := by
      cases q <;> rfl
    rw [hdefault]
    exact value_of_not_has fun v hv => hn v (said_onto_iff.mp hv)
  · intro w
    rw [mem_warnings_iff]
    simp only [said_onto_iff]

/-- An override out of range does not fall back to what the file says. -/
example : ofLayer ((⟨some (-5), none, some true⟩ : Layer).onto ⟨some 300, some 1001, none⟩) =
    (⟨500, 100, true⟩,
      [⟨debounceField, -5, debounceRange⟩, ⟨loopGuardField, 1001, loopGuardRange⟩]) := by
  decide

end LivePreview.Settings
