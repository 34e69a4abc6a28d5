import LivePreview.Files.Tree
import LivePreview.Proofs.Files.Path

/-!
# What operations do to a tree

1. Putting and erasing change one place (`item?_set`, `item?_erase`).
2. Steps lead along a `trail` of places, which is the same for the steps and for the components of a
   path (`mem_trail_undotted`). A path has a place if all places on the trail to it are directories
   and all names on it fit (`walk_concat_ok_iff`).
3. Making directories succeeds if no place on the trail is a file, or a name too long, and turns
   exactly these places into directories (`makeAlong_ok_iff`, `item?_makeAlong`).
4. A path keeps its place as long as directories stay directories (`Keeps.place_ok`).
-/

namespace LivePreview.Files

/-- The place behind a step. -/
def Component.after : Component → List (List Char) → List (List Char)
  | .name text, place => place ++ [text]
  | .above, place => place.dropLast
  | .root, _ => []
  | .here, place => place

/-- A step that is not too long a name. -/
def Component.Fits : Component → Prop
  | .name text => Tree.isTooLong text = false
  | .above | .root | .here => True

/-- The places that steps lead along, with the first and the last. -/
def trail : List (List Char) → List Component → List (List (List Char))
  | place, [] => [place]
  | place, c :: cs => place :: trail (c.after place) cs

/-- The place that steps lead to if all on the way are directories. -/
def along (place : List (List Char)) (cs : List Component) : List (List Char) :=
  cs.foldl (fun place c => c.after place) place

/-! ## Trails -/

section

variable {place q : List (List Char)} {cs : List Component}

theorem mem_trail_self (place : List (List Char)) (cs : List Component) :
    place ∈ trail place cs := by
  cases cs <;> exact List.mem_cons_self

theorem along_mem_trail (place : List (List Char)) (cs : List Component) :
    along place cs ∈ trail place cs := by
  induction cs generalizing place with
  | nil => exact List.mem_cons_self
  | cons c cs ih => exact List.mem_cons_of_mem _ (ih (c.after place))

/-- Dots lead nowhere else. -/
theorem mem_trail_undotted (place : List (List Char)) (cs : List Component) :
    q ∈ trail place (undotted cs) ↔ q ∈ trail place cs := by
  induction cs generalizing place with
  | nil => exact Iff.rfl
  | cons c cs ih =>
    by_cases hc : c = .here
    · subst hc
      rw [undotted_cons_here, ih, trail, List.mem_cons]
      refine ⟨.inr, ?_⟩
      rintro (rfl | h)
      · exact mem_trail_self _ _
      · exact h
    · rw [undotted_cons hc, trail, trail, List.mem_cons, List.mem_cons, ih]

theorem along_undotted (place : List (List Char)) (cs : List Component) :
    along place (undotted cs) = along place cs := by
  induction cs generalizing place with
  | nil => rfl
  | cons c cs ih =>
    by_cases hc : c = .here
    · subst hc
      exact ih place
    · rw [undotted_cons hc]
      exact ih (c.after place)

theorem fits_undotted (cs : List Component) : (∀ c ∈ undotted cs, c.Fits) ↔ ∀ c ∈ cs, c.Fits := by
  refine ⟨fun h c hc => ?_, fun h c hc => h c (List.mem_filter.mp hc).1⟩
  by_cases hd : c = .here
  · subst hd
    trivial
  · exact h c (List.mem_filter.mpr ⟨hc, bne_iff_ne.mpr hd⟩)

/-- If the names among the steps fit, so do those of the places on the trail. -/
theorem fits_of_mem_trail (hp : ∀ name ∈ place, Tree.isTooLong name = false)
    (hcs : ∀ c ∈ cs, c.Fits) (hq : q ∈ trail place cs) :
    ∀ name ∈ q, Tree.isTooLong name = false := by
  induction cs generalizing place with
  | nil =>
    rw [List.mem_singleton.mp hq]
    exact hp
  | cons c cs ih =>
    rw [trail, List.mem_cons] at hq
    rcases hq with rfl | hq
    · exact hp
    · refine ih (fun name hn => ?_) (fun d hd => hcs d (List.mem_cons_of_mem _ hd)) hq
      cases c with
      | name text =>
        rcases List.mem_append.mp hn with hn | hn
        · exact hp name hn
        · rw [List.mem_singleton.mp hn]
          exact hcs (.name text) List.mem_cons_self
      | above => exact hp name (List.dropLast_subset _ hn)
      | root => cases hn
      | here => exact hp name hn

end

namespace Tree

variable {t t' : Tree} {place q : List (List Char)} {cs : List Component} {path : String}

/-! ## Places -/

@[simp] theorem item?_nil (t : Tree) : t.item? [] = some .directory := rfl

theorem item?_of_ne_nil (t : Tree) (hq : q ≠ []) : t.item? q = t.items.lookup q := by
  rw [item?, List.isEmpty_eq_false_iff.mpr hq]
  rfl

theorem ne_nil_of_item?_ne (h : t.item? q ≠ some .directory) : q ≠ [] := by
  rintro rfl
  exact h t.item?_nil

theorem ne_nil_of_item?_none (h : t.item? q = none) : q ≠ [] :=
  ne_nil_of_item?_ne (t := t) (by simp [h])

theorem lookup_map_set (items : List (List (List Char) × Item)) (place q : List (List Char))
    (item : Item) :
    (items.map fun (p, old) => (p, if p == place then item else old)).lookup q =
      if q = place then (items.lookup q).map fun _ => item else items.lookup q := by
  induction items with
  | nil => simp
  | cons entry items ih =>
    obtain ⟨p, old⟩ := entry
    rw [List.map_cons, List.lookup_cons, List.lookup_cons, ih]
    by_cases hp : q = p
    · subst hp
      by_cases hq : q = place <;> simp [hq]
    · rw [beq_false_of_ne hp]

theorem lookup_filter (items : List (List (List Char) × Item)) (keep : List (List Char) → Bool)
    (q : List (List Char)) : (items.filter fun entry => keep entry.1).lookup q =
      if keep q then items.lookup q else none := by
  induction items with
  | nil => simp
  | cons entry items ih =>
    obtain ⟨p, item⟩ := entry
    rw [List.filter_cons, List.lookup_cons]
    by_cases hp : q = p
    · subst hp
      by_cases hk : keep q = true
      · rw [if_pos hk, if_pos hk, List.lookup_cons, beq_self_eq_true]
      · rw [if_neg hk, ih, if_neg hk, if_neg hk]
    · rw [beq_false_of_ne hp]
      by_cases hk : keep p = true
      · rw [if_pos hk, List.lookup_cons, beq_false_of_ne hp, ih]
      · rw [if_neg hk, ih]

/-- Putting an item changes its place only. -/
theorem item?_set (t : Tree) (hp : place ≠ []) (item : Item) (q : List (List Char)) :
    (t.set place item).item? q = if q = place then some item else t.item? q := by
  by_cases hq : q = []
  · subst hq
    rw [item?_nil, item?_nil, if_neg (Ne.symm hp)]
  · rw [item?_of_ne_nil _ hq, item?_of_ne_nil _ hq, set]
    cases hl : t.items.lookup place with
    | some old =>
      rw [Option.isSome_some, if_pos rfl, lookup_map_set]
      by_cases hqp : q = place
      · rw [if_pos hqp, if_pos hqp, hqp, hl, Option.map_some]
      · rw [if_neg hqp, if_neg hqp]
    | none =>
      rw [Option.isSome_none, if_neg Bool.false_ne_true, List.lookup_append, List.lookup_cons]
      by_cases hqp : q = place
      · rw [if_pos hqp, hqp, hl, beq_self_eq_true, Option.none_or]
      · rw [if_neg hqp, beq_false_of_ne hqp, List.lookup_nil, Option.or_none]

/-- Dropping items leaves the others. -/
theorem item?_filter (t : Tree) (keep : List (List Char) → Bool) (hq : q ≠ []) :
    (Tree.mk (t.items.filter fun entry => keep entry.1)).item? q =
      if keep q then t.item? q else none := by
  rw [item?_of_ne_nil _ hq, item?_of_ne_nil _ hq, lookup_filter]

/-- Erasing changes one place only. -/
theorem item?_erase (t : Tree) (hp : place ≠ []) (q : List (List Char)) :
    (t.erase place).item? q = if q = place then none else t.item? q := by
  by_cases hq : q = []
  · subst hq
    rw [item?_nil, item?_nil, if_neg (Ne.symm hp)]
  · rw [show t.erase place = ⟨t.items.filter fun entry => entry.1 != place⟩ from rfl,
      item?_filter t (· != place) hq]
    by_cases hqp : q = place
    · rw [if_pos hqp, if_neg (by simpa using hqp)]
    · rw [if_neg hqp, if_pos (bne_iff_ne.mpr hqp)]

/-! ## Walking -/

/-- One step of a walk. -/
theorem walk_cons_ok_iff {c : Component} : t.walk place (c :: cs) = .ok q ↔
    t.item? place = some .directory ∧ c.Fits ∧ t.walk (c.after place) cs = .ok q := by
  rw [walk.eq_def]
  cases hi : t.item? place with
  | none => simp [hi]
  | some item =>
    cases item with
    | file bytes => simp [hi]
    | directory =>
      cases c with
      | name text =>
        by_cases ht : isTooLong text = true
        · simp [hi, Component.Fits, ht]
        · simp [hi, Component.Fits, Component.after, ht]
      | above | root | here => simp [hi, Component.Fits, Component.after]

/-- A walk succeeds if all on the way but the last place are directories and all names fit. -/
theorem walk_concat_ok_iff {c : Component} : t.walk place (cs ++ [c]) = .ok q ↔
    (∀ p ∈ trail place cs, t.item? p = some .directory) ∧ (∀ d ∈ cs, d.Fits) ∧ c.Fits ∧
      q = c.after (along place cs) := by
  induction cs generalizing place with
  | nil =>
    rw [List.nil_append, walk_cons_ok_iff, walk]
    simp [trail, along, eq_comm]
  | cons d cs ih =>
    rw [List.cons_append, walk_cons_ok_iff, ih, trail]
    simp only [List.forall_mem_cons]
    constructor
    · rintro ⟨hp, hd, ht, hcs, hc, hq⟩
      exact ⟨⟨hp, ht⟩, ⟨hd, hcs⟩, hc, hq⟩
    · rintro ⟨⟨hp, ht⟩, ⟨hd, hcs⟩, hc, hq⟩
      exact ⟨hp, hd, ht, hcs, hc, hq⟩

/-- The place of a name below a path. -/
theorem place_join_ok_iff {name : String} (hn : Path.IsName name.toList) :
    t.place (Path.join path name) = .ok q ↔ pathFault? (Path.join path name) = none ∧
      (∀ p ∈ trail [] (Path.components path.toList), t.item? p = some .directory) ∧
      (∀ c ∈ Path.components path.toList, c.Fits) ∧ isTooLong name.toList = false ∧
      q = along [] (Path.components path.toList) ++ [name.toList] := by
  have hempty : (Path.join path name).isEmpty = false := by
    have hsteps := Path.steps_join path hn
    refine Bool.eq_false_iff.mpr fun he => ?_
    rw [String.isEmpty_iff.mp he] at hsteps
    simp [Path.steps, Path.splitSlash] at hsteps
  rw [place]
  cases hf : pathFault? (Path.join path name) with
  | some e => simp
  | none =>
    simp only [hempty]
    rw [Path.steps_join path hn]
    simp only [Bool.false_eq_true, if_false, true_and]
    rw [walk_concat_ok_iff]
    simp only [← mem_trail_undotted [] (Path.steps _), ← mem_trail_undotted [] (Path.components _),
      ← fits_undotted (Path.steps _), ← fits_undotted (Path.components _),
      ← along_undotted [] (Path.steps _), ← along_undotted [] (Path.components _),
      Path.undotted_steps]
    exact Iff.rfl

/-! ## Making directories -/

theorem makeAlong_cons (t : Tree) (place : List (List Char)) (c : Component)
    (cs : List Component) : t.makeAlong place (c :: cs) =
      match t.item? (c.after place) with
      | some .directory => t.makeAlong (c.after place) cs
      | some (.file _) => .error (if cs.isEmpty then .alreadyExists else .notDirectory)
      | none =>
        if ((c.after place).getLast?).any isTooLong then .error .nameTooLong
        else (t.set (c.after place) .directory).makeAlong (c.after place) cs := by
  cases c <;> rfl

/-- A place that is a directory, or where one can be made. -/
def Passable (t : Tree) (place : List (List Char)) : Prop :=
  t.item? place = some .directory ∨
    (t.item? place = none ∧ place.getLast?.any isTooLong = false)

/-- A new directory does not stand in the way of others. -/
theorem passable_set (h : t.item? place = none) (hp : place.getLast?.any isTooLong = false) :
    (t.set place .directory).Passable q ↔ t.Passable q := by
  have hne : place ≠ [] := ne_nil_of_item?_none h
  unfold Passable
  rw [item?_set t hne]
  by_cases hq : q = place
  · subst hq
    simp [h, hp]
  · rw [if_neg hq]

/-- Directories can be made along steps if every place on the trail is passable. -/
theorem makeAlong_ok_iff (hp : t.item? place = some .directory) :
    (∃ t', t.makeAlong place cs = .ok t') ↔ ∀ p ∈ trail place cs, t.Passable p := by
  induction cs generalizing t place with
  | nil =>
    simp only [trail, List.mem_singleton, forall_eq]
    exact ⟨fun _ => .inl hp, fun _ => ⟨t, rfl⟩⟩
  | cons c cs ih =>
    have hself : t.Passable place := .inl hp
    rw [makeAlong_cons, trail, List.forall_mem_cons, and_iff_right hself]
    cases hi : t.item? (c.after place) with
    | none =>
      by_cases hl : ((c.after place).getLast?).any isTooLong = true
      · simp only [hl, if_true]
        refine ⟨nofun, fun h => ?_⟩
        rcases h _ (mem_trail_self _ _) with hd | ⟨-, hf⟩
        · rw [hi] at hd
          cases hd
        · rw [hl] at hf
          cases hf
      · have hne : c.after place ≠ [] := ne_nil_of_item?_none hi
        have hd : (t.set (c.after place) .directory).item? (c.after place) = some .directory := by
          rw [item?_set t hne, if_pos rfl]
        simp only [hl, Bool.false_eq_true, if_false]
        rw [ih hd]
        exact forall₂_congr fun p _ => passable_set hi (Bool.eq_false_iff.mpr hl)
    | some item =>
      cases item with
      | directory => exact ih hi
      | file bytes =>
        refine ⟨nofun, fun h => ?_⟩
        rcases h _ (mem_trail_self _ _) with hd | ⟨hn, -⟩
        · rw [hi] at hd
          cases hd
        · rw [hi] at hn
          cases hn

/-- Making directories along steps makes the places on the trail directories, and that is all. -/
theorem item?_makeAlong (hp : t.item? place = some .directory)
    (h : t.makeAlong place cs = .ok t') (q : List (List Char)) :
    t'.item? q = if q ∈ trail place cs then some .directory else t.item? q := by
  induction cs generalizing t place with
  | nil =>
    cases h
    rw [trail]
    by_cases hq : q = place
    · rw [if_pos (List.mem_singleton.mpr hq), hq, hp]
    · rw [if_neg fun hm => hq (List.mem_singleton.mp hm)]
  | cons c cs ih =>
    -- the place where the steps start is a directory before and behind
    have hstart : ∀ t₁ : Tree, t₁.item? place = some .directory →
        (if q ∈ trail (c.after place) cs then some .directory else t₁.item? q) =
          if q ∈ trail place (c :: cs) then some .directory else t₁.item? q := by
      intro t₁ h₁
      by_cases hq : q = place
      · subst hq
        rw [h₁]
        simp
      · have hm : q ∈ trail place (c :: cs) ↔ q ∈ trail (c.after place) cs := by
          rw [trail, List.mem_cons, or_iff_right hq]
        simp only [hm]
    rw [makeAlong_cons] at h
    cases hi : t.item? (c.after place) with
    | none =>
      have hne : c.after place ≠ [] := ne_nil_of_item?_none hi
      have hset := item?_set t hne .directory
      have hd : (t.set (c.after place) .directory).item? (c.after place) = some .directory := by
        rw [hset, if_pos rfl]
      rw [hi] at h
      by_cases hl : ((c.after place).getLast?).any isTooLong = true
      · simp [hl] at h
      · simp only [hl, Bool.false_eq_true, if_false] at h
        rw [ih hd h, ← hstart t hp, hset]
        by_cases hq : q = c.after place
        · rw [hq, if_pos (mem_trail_self _ _), if_pos (mem_trail_self _ _)]
        · rw [if_neg hq]
    | some item =>
      rw [hi] at h
      cases item with
      | directory => rw [ih hi h, hstart t hp]
      | file bytes => cases h

theorem createDirectories_ok_iff : (∃ t', t.createDirectories path = .ok t') ↔
    pathFault? path = none ∧ ∀ p ∈ trail [] (Path.components path.toList), t.Passable p := by
  rw [createDirectories]
  cases hf : pathFault? path with
  | some e => simp
  | none => simpa using makeAlong_ok_iff t.item?_nil

theorem makeAlong_of_createDirectories (h : t.createDirectories path = .ok t') :
    t.makeAlong [] (Path.components path.toList) = .ok t' := by
  rw [createDirectories] at h
  cases hf : pathFault? path with
  | some e => rw [hf] at h; cases h
  | none => rw [hf] at h; exact h

theorem item?_createDirectories (h : t.createDirectories path = .ok t') (q : List (List Char)) :
    t'.item? q = if q ∈ trail [] (Path.components path.toList) then some .directory
      else t.item? q :=
  item?_makeAlong t.item?_nil (makeAlong_of_createDirectories h) q

/-! ## Directories that stay -/

/-- What was a directory still is one. -/
def Keeps (t t' : Tree) : Prop :=
  ∀ place, t.item? place = some .directory → t'.item? place = some .directory

theorem Keeps.refl (t : Tree) : t.Keeps t := fun _ h => h

theorem Keeps.trans {t'' : Tree} (h : t.Keeps t') (h' : t'.Keeps t'') : t.Keeps t'' :=
  fun place hp => h' place (h place hp)

theorem keeps_set_file (h : t.item? place ≠ some .directory) (bytes : ByteArray) :
    t.Keeps (t.set place (.file bytes)) := by
  intro q hq
  have hne : q ≠ place := by
    rintro rfl
    exact h hq
  rw [item?_set t (ne_nil_of_item?_ne h), if_neg hne, hq]

theorem keeps_erase (h : t.item? place ≠ some .directory) : t.Keeps (t.erase place) := by
  intro q hq
  have hne : q ≠ place := by
    rintro rfl
    exact h hq
  rw [item?_erase t (ne_nil_of_item?_ne h), if_neg hne, hq]

theorem keeps_createDirectories (h : t.createDirectories path = .ok t') : t.Keeps t' := by
  intro q hq
  rw [item?_createDirectories h, hq, ite_self]

theorem Keeps.walk_ok (hk : t.Keeps t') (h : t.walk place cs = .ok q) :
    t'.walk place cs = .ok q := by
  induction cs generalizing place with
  | nil => exact h
  | cons c cs ih =>
    obtain ⟨hp, hc, h⟩ := walk_cons_ok_iff.mp h
    exact walk_cons_ok_iff.mpr ⟨hk _ hp, hc, ih h⟩

/-- A path keeps its place while directories stay. -/
theorem Keeps.place_ok (hk : t.Keeps t') (h : t.place path = .ok q) : t'.place path = .ok q := by
  rw [Tree.place] at h ⊢
  cases hf : pathFault? path with
  | some e => rw [hf] at h; cases h
  | none =>
    rw [hf] at h
    by_cases he : path.isEmpty = true
    · simp [he] at h
    · simp only [he, Bool.false_eq_true, if_false] at h ⊢
      exact hk.walk_ok h

/-! ## Files -/

/-- A file is written to the place of its path, which is no directory. -/
theorem write_ok_iff {bytes : ByteArray} (ha : asksDirectory path = false)
    (h : t.place path = .ok place) (hd : t.item? place.dropLast = some .directory) :
    t.write path bytes = .ok t' ↔
      t.item? place ≠ some .directory ∧ t' = t.set place (.file bytes) := by
  rw [write, h]
  cases hi : t.item? place with
  | none => simp [ha, hi, hd, eq_comm]
  | some item => cases item <;> simp [ha, hi, eq_comm]

/-- What a path holds is what its place holds. -/
theorem find_of_place (ha : asksDirectory path = false) (h : t.place path = .ok place) :
    t.find path = match t.item? place with
      | none => .error .notFound
      | some item => .ok item := by
  rw [find, h]
  cases hi : t.item? place with
  | none => simp [hi]
  | some item => cases item <;> simp [ha, hi]

/-- A file is removed from the place of its path. -/
theorem remove_ok_iff (ha : asksDirectory path = false) : t.remove path = .ok t' ↔
    ∃ place bytes, t.place path = .ok place ∧ t.item? place = some (.file bytes) ∧
      t' = t.erase place := by
  rw [remove]
  cases hp : t.place path with
  | error e => simp [find, hp]
  | ok place =>
    rw [find_of_place ha hp]
    cases hi : t.item? place with
    | none => simp [hi]
    | some item => cases item <;> simp [hi, eq_comm]

end Tree

end LivePreview.Files
