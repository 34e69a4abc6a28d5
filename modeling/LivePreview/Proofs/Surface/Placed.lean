import LivePreview.Proofs.Files.Tree
import LivePreview.Proofs.Text.Numeral
import LivePreview.Surface.Directory

/-!
# The files of numbers

1. The file of a number is one name below the directory (`isName_fileName`), and different numbers
   have different files (`location_inj`, `placeOf_inj`).
2. `held` is what the file of a number holds. Making directories changes no file
   (`held_createDirectories`), and writing and removing one file change no other (`held_set`,
   `held_without`).
3. A new file can be written exactly if nothing stands in its way (`written_iff`).
-/

namespace LivePreview.Surface.Directory

open Files
open Files.Tree (asksDirectory isTooLong pathFault?)
open Preview (Artifact)

/-! ## Names -/

theorem toList_fileName (id : Nat) : (fileName id).toList =
    "preview-".toList ++ (Text.decimal id ++ ".html".toList) := by
  simp [fileName]

theorem fileName_inj {id id' : Nat} (h : (fileName id).toList = (fileName id').toList) :
    id = id' := by
  rw [toList_fileName, toList_fileName] at h
  have hd := List.append_cancel_right (List.append_cancel_left h)
  have hr := congrArg Text.readDecimal hd
  rwa [Text.readDecimal_decimal, Text.readDecimal_decimal] at hr

/-- Digits apart, a file name starts with a letter and has no slash. -/
theorem isName_fileName (id : Nat) : Path.IsName (fileName id).toList := by
  constructor
  · rw [toList_fileName, List.mem_append, List.mem_append]
    rintro (h | h | h)
    · exact absurd h (by decide)
    · exact absurd (Text.isDecimal_of_mem_decimal h) (by decide)
    · exact absurd h (by decide)
  · rw [toList_fileName]
    rfl

variable {path : String} {t t' : Tree} {id id' : Nat}

/-- The path of the file of a number, in a directory. -/
def location (path : String) (id : Nat) : String := Path.join path (fileName id)

theorem pathOf_eq (d : Directory) (id : Nat) : d.pathOf id = location d.path id := rfl

theorem location_inj (h : location path id = location path id') : id = id' := by
  have hs := congrArg (fun s => Path.steps s.toList) h
  simp only [location, Path.steps_join path (isName_fileName _)] at hs
  have hn := List.append_cancel_left hs
  simp only [List.cons.injEq, Files.Component.name.injEq, and_true] at hn
  exact fileName_inj hn

/-- The path of a file does not end in a slash. -/
theorem asksDirectory_location (path : String) (id : Nat) :
    asksDirectory (location path id) = false := by
  have hlast : (fileName id).toList.getLast? = some 'l' := by
    rw [toList_fileName, List.getLast?_append, List.getLast?_append]
    rfl
  have hend : (location path id).toList.getLast? = some 'l' := by
    rw [location, Path.toList_join path (isName_fileName id)]
    split
    · exact hlast
    · split
      · rw [List.getLast?_append, hlast, Option.some_or]
      · rw [List.getLast?_append, List.getLast?_cons, hlast]
        rfl
  rw [asksDirectory, hend]
  rfl

/-! ## Places -/

/-- The place of a directory. -/
def outputPlace (path : String) : List (List Char) := along [] (Path.components path.toList)

/-- The place of the file of a number, in a directory. -/
def placeOf (path : String) (id : Nat) : List (List Char) :=
  outputPlace path ++ [(fileName id).toList]

theorem placeOf_inj (h : placeOf path id = placeOf path id') : id = id' := by
  have hn := List.append_cancel_left h
  exact fileName_inj (List.cons.inj hn).1

theorem placeOf_ne_nil (path : String) (id : Nat) : placeOf path id ≠ [] := by
  simp [placeOf]

theorem placeOf_ne_outputPlace (path : String) (id : Nat) : placeOf path id ≠ outputPlace path := by
  intro h
  have hl := congrArg List.length h
  simp [placeOf] at hl

theorem dropLast_placeOf (path : String) (id : Nat) :
    (placeOf path id).dropLast = outputPlace path := List.dropLast_concat

/-- A path of a file has its place if the directory is there and the names fit. -/
theorem place_location_iff {place : List (List Char)} :
    t.place (location path id) = .ok place ↔ pathFault? (location path id) = none ∧
      (∀ p ∈ trail [] (Path.components path.toList), t.item? p = some .directory) ∧
      (∀ c ∈ Path.components path.toList, c.Fits) ∧ isTooLong (fileName id).toList = false ∧
      place = placeOf path id :=
  Tree.place_join_ok_iff (isName_fileName id)

theorem place_location_eq {place : List (List Char)} (h : t.place (location path id) = .ok place) :
    place = placeOf path id := (place_location_iff.mp h).2.2.2.2

/-- The directory of a file that has its place. -/
theorem item?_outputPlace {place : List (List Char)}
    (h : t.place (location path id) = .ok place) :
    t.item? (outputPlace path) = some .directory :=
  (place_location_iff.mp h).2.1 _ (Files.along_mem_trail _ _)

/-! ## What the files hold -/

/-- What the file of a number holds, if there is one. -/
def held (path : String) (t : Tree) (id : Nat) : Option ByteArray :=
  match t.item? (placeOf path id) with
  | some (.file bytes) => some bytes
  | some .directory | none => none

theorem held_eq_some_iff {bytes : ByteArray} :
    held path t id = some bytes ↔ t.item? (placeOf path id) = some (.file bytes) := by
  unfold held
  split <;> simp_all

theorem held_congr (h : t'.item? (placeOf path id) = t.item? (placeOf path id)) :
    held path t' id = held path t id := by
  unfold held
  rw [h]

/-- Writing a file changes no other. -/
theorem held_set (path : String) (t : Tree) (id id' : Nat) (bytes : ByteArray) :
    held path (t.set (placeOf path id) (.file bytes)) id' =
      if id' = id then some bytes else held path t id' := by
  have hset := t.item?_set (placeOf_ne_nil path id) (.file bytes) (placeOf path id')
  by_cases hid : id' = id
  · subst hid
    rw [if_pos rfl] at hset ⊢
    exact held_eq_some_iff.mpr hset
  · rw [if_neg fun hp => hid (placeOf_inj hp)] at hset
    rw [if_neg hid]
    exact held_congr hset

/-- Erasing a file changes no other. -/
theorem held_erase (path : String) (t : Tree) (id id' : Nat) :
    held path (t.erase (placeOf path id)) id' = if id' = id then none else held path t id' := by
  have herase := t.item?_erase (placeOf_ne_nil path id) (placeOf path id')
  by_cases hid : id' = id
  · subst hid
    rw [if_pos rfl] at herase ⊢
    rw [held, herase]
  · rw [if_neg fun hp => hid (placeOf_inj hp)] at herase
    rw [if_neg hid]
    exact held_congr herase

/-- Making directories changes no file: none stands on the way. -/
theorem held_createDirectories {made : String} (h : t.createDirectories made = .ok t') (id : Nat) :
    held path t' id = held path t id := by
  have hitem := Tree.item?_createDirectories h (placeOf path id)
  have hpass := (Tree.createDirectories_ok_iff.mp ⟨t', h⟩).2
  by_cases hm : placeOf path id ∈ trail [] (Path.components made.toList)
  · rw [if_pos hm] at hitem
    rw [held, hitem, held]
    rcases hpass _ hm with hd | ⟨hn, -⟩
    · rw [hd]
    · rw [hn]
  · rw [if_neg hm] at hitem
    exact held_congr hitem

/-! ## Removing -/

/-- The tree behind an attempt to remove a file. -/
def without (t : Tree) (path : String) : Tree :=
  match t.remove path with
  | .ok t' => t'
  | .error _ => t

theorem keeps_without (t : Tree) (path : String) (id : Nat) :
    t.Keeps (without t (location path id)) := by
  unfold without
  cases hr : t.remove (location path id) with
  | error e => exact .refl t
  | ok t' =>
    obtain ⟨place, bytes, -, hi, rfl⟩ :=
      (Tree.remove_ok_iff (asksDirectory_location path id)).mp hr
    exact Tree.keeps_erase (by simp [hi])

/-- A file whose path has its place is gone behind the attempt to remove it, and the others are as
they were. -/
theorem held_without
    (hp : held path t id ≠ none → t.place (location path id) = .ok (placeOf path id)) (id' : Nat) :
    held path (without t (location path id)) id' =
      if id' = id then none else held path t id' := by
  unfold without
  cases hr : t.remove (location path id) with
  | ok t' =>
    obtain ⟨place, bytes, hplace, -, rfl⟩ :=
      (Tree.remove_ok_iff (asksDirectory_location path id)).mp hr
    rw [place_location_eq hplace]
    exact held_erase path t id id'
  | error e =>
    have hnone : held path t id = none := by
      cases hh : held path t id with
      | none => rfl
      | some bytes =>
        have hok := (Tree.remove_ok_iff (asksDirectory_location path id)).mpr
          ⟨_, bytes, hp (by simp [hh]), held_eq_some_iff.mp hh, rfl⟩
        rw [hr] at hok
        cases hok
    by_cases hid : id' = id
    · rw [if_pos hid, hid]
      exact hnone
    · rw [if_neg hid]

/-! ## Writing -/

/-- Nothing stands in the way of the file of a number. -/
structure Unobstructed (path : String) (t : Tree) (id : Nat) : Prop where
  /-- The directory and the file can be named at all. -/
  named : pathFault? path = none ∧ pathFault? (location path id) = none
  /-- Every name fits. -/
  fits : (∀ c ∈ Path.components path.toList, c.Fits) ∧ isTooLong (fileName id).toList = false
  /-- Nothing on the way to the directory is a file. -/
  free : ∀ place ∈ trail [] (Path.components path.toList), ∀ bytes,
    t.item? place ≠ some (.file bytes)
  /-- No directory is where the file belongs, nor is one made there on the way. -/
  vacant : t.item? (placeOf path id) ≠ some .directory ∧
    placeOf path id ∉ trail [] (Path.components path.toList)

/-- With the directory made, a file is written exactly where no directory is. -/
theorem write_location_ok_iff {bytes : ByteArray}
    (hp : t.place (location path id) = .ok (placeOf path id)) :
    t.write (location path id) bytes = .ok t' ↔
      t.item? (placeOf path id) ≠ some .directory ∧
        t' = t.set (placeOf path id) (.file bytes) :=
  Tree.write_ok_iff (asksDirectory_location path id) hp
    ((dropLast_placeOf path id).symm ▸ item?_outputPlace hp)

theorem place_of_write {bytes : ByteArray} (h : t.write (location path id) bytes = .ok t') :
    t.place (location path id) = .ok (placeOf path id) := by
  cases hp : t.place (location path id) with
  | error e => rw [Tree.write, hp] at h; cases h
  | ok place => rw [place_location_eq hp]

/-- A file that was written is there. -/
theorem isFile_of_write {bytes : ByteArray} (h : t.write (location path id) bytes = .ok t') :
    t'.isFile (location path id) = true := by
  have hp := place_of_write h
  obtain ⟨hv, rfl⟩ := (write_location_ok_iff hp).mp h
  have hfind := Tree.find_of_place (asksDirectory_location path id)
    ((Tree.keeps_set_file hv bytes).place_ok hp)
  have hitem := t.item?_set (placeOf_ne_nil path id) (.file bytes) (placeOf path id)
  rw [if_pos rfl] at hitem
  rw [hitem] at hfind
  rw [Tree.isFile, hfind]

/-- Making the directory and writing the file succeed exactly if nothing stands in the way. -/
theorem written_iff (bytes : ByteArray) :
    (∃ t₁ t₂, t.createDirectories path = .ok t₁ ∧ t₁.write (location path id) bytes = .ok t₂) ↔
      Unobstructed path t id := by
  constructor
  · rintro ⟨t₁, t₂, h₁, h₂⟩
    have hp := place_of_write h₂
    have hv := ((write_location_ok_iff hp).mp h₂).1
    obtain ⟨hfile, -, hfits, hname, -⟩ := place_location_iff.mp hp
    obtain ⟨hdir, hpass⟩ := Tree.createDirectories_ok_iff.mp ⟨t₁, h₁⟩
    -- the places on the trail are directories by now, so the file is on none of them
    rw [Tree.item?_createDirectories h₁] at hv
    refine ⟨⟨hdir, hfile⟩, ⟨hfits, hname⟩, fun place hm bytes hi => ?_, ?_⟩
    · rcases hpass place hm with hd | ⟨hn, -⟩
      · rw [hi] at hd
        cases hd
      · rw [hi] at hn
        cases hn
    · by_cases hm : placeOf path id ∈ trail [] (Path.components path.toList)
      · rw [if_pos hm] at hv
        exact absurd rfl hv
      · rw [if_neg hm] at hv
        exact ⟨hv, hm⟩
  · intro hu
    have hpass : ∀ p ∈ trail [] (Path.components path.toList), t.Passable p := by
      intro p hm
      cases hi : t.item? p with
      | none =>
        refine .inr ⟨hi, ?_⟩
        have hfit := Files.fits_of_mem_trail (fun _ hn => absurd hn List.not_mem_nil) hu.fits.1 hm
        cases hl : p.getLast? with
        | none => rfl
        | some name => exact hfit name (List.mem_of_getLast? hl)
      | some item =>
        cases item with
        | directory => exact .inl hi
        | file bytes => exact absurd hi (hu.free p hm bytes)
    obtain ⟨t₁, h₁⟩ := Tree.createDirectories_ok_iff.mpr ⟨hu.named.1, hpass⟩
    have hp : t₁.place (location path id) = .ok (placeOf path id) := by
      refine place_location_iff.mpr ⟨hu.named.2, fun p hm => ?_, hu.fits.1, hu.fits.2, rfl⟩
      rw [Tree.item?_createDirectories h₁, if_pos hm]
    have hv : t₁.item? (placeOf path id) ≠ some .directory := by
      rw [Tree.item?_createDirectories h₁, if_neg hu.vacant.2]
      exact hu.vacant.1
    exact ⟨t₁, _, h₁, (write_location_ok_iff hp).mpr ⟨hv, rfl⟩⟩

end LivePreview.Surface.Directory
