import LivePreview.Preview.Slot
import LivePreview.Proofs.Surface.Placed
import LivePreview.Sandbox

/-!
# A slot over a directory

A slot over a directory, while others interfere with its files.

1. What a deed of others does to the files is said once (`held_apply`, `keeps_apply`).
2. A `Scene` is a slot with its directory and the files. It takes installations, emptyings and
   deeds, and its history says what happened, latest first. What every move keeps, every run keeps
   (`Scene.run_induction`).
3. An emptying takes the live artifact back (`clear_eq`), and an installation makes one, shows it
   and takes the one before back (`install_eq`).
-/

namespace LivePreview.Surface.Directory

open Files
open Preview (Artifact Slot SurfaceError)

/-! ## Deeds of others -/

/-- What others do to the files. -/
inductive Deed where
  /-- Deletes the file of a number. -/
  | remove (id : Nat)
  /-- Makes a directory where the file of a number belongs, if it can be made. -/
  | occupy (id : Nat)
  /-- Deletes the directory with all that is in it. -/
  | wipe
  /-- Puts a file where the directory belongs, if nothing is there. -/
  | block (bytes : ByteArray)
  /-- Deletes a file where the directory belongs. -/
  | unblock

/-- The files behind a deed. -/
def Deed.apply (path : String) (t : Tree) : Deed → Tree
  | .remove id => if (held path t id).isSome then t.erase (placeOf path id) else t
  | .occupy id =>
    match t.createDirectories (location path id) with
    | .ok t' => t'
    | .error _ => t
  | .wipe => ⟨t.items.filter fun entry => !(outputPlace path).isPrefixOf entry.1⟩
  | .block bytes =>
    if t.item? (outputPlace path) = none ∧
        t.item? (outputPlace path).dropLast = some .directory then
      t.set (outputPlace path) (.file bytes)
    else t
  | .unblock =>
    match t.item? (outputPlace path) with
    | some (.file _) => t.erase (outputPlace path)
    | some .directory | none => t

/-- A deed deletes the file of a number. -/
def Deed.deletes : Deed → Nat → Bool
  | .remove id, id' => id' == id
  | .wipe, _ => true
  | .occupy _, _ | .block _, _ | .unblock, _ => false

section

variable (path : String) (t : Tree)

theorem placeOf_not_kept_by_wipe (id : Nat) :
    (!(outputPlace path).isPrefixOf (placeOf path id)) = false := by
  rw [Bool.not_eq_false', List.isPrefixOf_iff_prefix]
  exact List.prefix_append _ _

/-- A deed deletes files of numbers, and does nothing else to them. -/
theorem held_apply (d : Deed) (id : Nat) :
    held path (d.apply path t) id = if d.deletes id then none else held path t id := by
  cases d with
  | remove id' =>
    by_cases hs : (held path t id').isSome = true
    · rw [Deed.apply, if_pos hs, held_erase]
      simp [Deed.deletes]
    · rw [Deed.apply, if_neg hs]
      by_cases hid : id = id'
      · subst hid
        simpa [Deed.deletes] using hs
      · simp [Deed.deletes, hid]
  | occupy id' =>
    rw [Deed.apply]
    split
    · rename_i h
      exact held_createDirectories h id
    · rfl
  | wipe =>
    have hnone := t.item?_filter (fun place => !(outputPlace path).isPrefixOf place)
      (placeOf_ne_nil path id)
    rw [placeOf_not_kept_by_wipe path id, if_neg Bool.false_ne_true] at hnone
    rw [held, Deed.apply, hnone]
    rfl
  | block bytes =>
    rw [Deed.apply]
    split
    · rename_i h
      refine held_congr ?_
      rw [t.item?_set (Tree.ne_nil_of_item?_none h.1), if_neg (placeOf_ne_outputPlace path id)]
    · rfl
  | unblock =>
    rw [Deed.apply]
    split
    · rename_i bytes h
      refine held_congr ?_
      rw [t.item?_erase (Tree.ne_nil_of_item?_ne (t := t) (by simp [h])),
        if_neg (placeOf_ne_outputPlace path id)]
    · rfl
    · rfl

/-- Only wiping deletes directories. -/
theorem keeps_apply {d : Deed} (hd : d ≠ .wipe) : t.Keeps (d.apply path t) := by
  cases d with
  | remove id =>
    rw [Deed.apply]
    split
    · rename_i hs
      obtain ⟨bytes, hb⟩ := Option.isSome_iff_exists.mp hs
      exact Tree.keeps_erase (by simp [held_eq_some_iff.mp hb])
    · exact .refl t
  | occupy id =>
    rw [Deed.apply]
    split
    · rename_i h
      exact Tree.keeps_createDirectories h
    · exact .refl t
  | wipe => exact absurd rfl hd
  | block bytes =>
    rw [Deed.apply]
    split
    · rename_i h
      exact Tree.keeps_set_file (by simp [h.1]) bytes
    · exact .refl t
  | unblock =>
    rw [Deed.apply]
    split
    · rename_i bytes h
      exact Tree.keeps_erase (by simp [h])
    · exact .refl t
    · exact .refl t

end

/-! ## Scenes -/

/-- A slot over a directory. -/
structure Scene where
  slot : Slot
  directory : Directory
  sandbox : Sandbox

/-- What happens in a scene. -/
inductive Move where
  | install (document : String)
  | clear
  | other (deed : Deed)

/-- What happened in a scene. -/
inductive Event where
  /-- A document was installed. If a number was spent on it, `tried` is the path of its file. -/
  | installed (document : String) (answer : Except SurfaceError Artifact) (tried : Option String)
  | cleared
  | other (deed : Deed)

namespace Scene

/-- Nothing was installed yet. -/
def opened (path : String) (sandbox : Sandbox) : Scene := ⟨.empty, .start path, sandbox⟩

/-- The files of a scene. -/
def tree (s : Scene) : Tree := s.sandbox.tree

/-- The scene with other files. -/
def withTree (s : Scene) (t : Tree) : Scene := { s with sandbox := { s.sandbox with tree := t } }

/-- An installation. -/
def install (s : Scene) (document : String) : Except SurfaceError Artifact × Scene :=
  let act : StateT Directory (StateM Sandbox) _ := s.slot.install surface document
  let (((answer, slot), directory), sandbox) := act s.directory s.sandbox
  (answer, ⟨slot, directory, sandbox⟩)

/-- An emptying. -/
def clear (s : Scene) : Scene :=
  let act : StateT Directory (StateM Sandbox) _ := s.slot.clear surface
  let ((slot, directory), sandbox) := act s.directory s.sandbox
  ⟨slot, directory, sandbox⟩

/-- The path that was used up between two scenes, if a number was spent. -/
def tried (s s' : Scene) : Option String :=
  if s'.directory.spent = s.directory.spent then none
  else some (s'.directory.pathOf s'.directory.spent)

/-- What a move leads to. -/
def take (s : Scene) : Move → Event × Scene
  | .install document =>
    let (answer, s') := s.install document
    (.installed document answer (s.tried s'), s')
  | .clear => (.cleared, s.clear)
  | .other deed => (.other deed, s.withTree (deed.apply s.directory.path s.tree))

/-- What moves lead to, and the history behind them, latest first. -/
def run (s : Scene) (past : List Event) : List Move → List Event × Scene
  | [] => (past, s)
  | move :: moves => (s.take move).2.run ((s.take move).1 :: past) moves

/-- What every move keeps, every run keeps. -/
theorem run_induction {motive : List Event → Scene → Prop}
    (hmove : ∀ past s move, motive past s → motive ((s.take move).1 :: past) (s.take move).2)
    {past : List Event} {s : Scene} (h : motive past s) (moves : List Move) :
    motive (s.run past moves).1 (s.run past moves).2 := by
  induction moves generalizing past s with
  | nil => exact h
  | cons move moves ih => exact ih (hmove past s move h)

end Scene

/-! ## One emptying -/

/-- The directory behind the release of a path. -/
def forget (d : Directory) (location : String) : Directory :=
  { d with current := if d.current = some location then none else d.current }

theorem run_bind {α β : Type} (x : StateM Sandbox α) (f : α → StateM Sandbox β) (w : Sandbox) :
    (x >>= f) w = f (x w).1 (x w).2 := rfl

theorem run_bind_directory {α β : Type} (x : StateT Directory (StateM Sandbox) α)
    (f : α → StateT Directory (StateM Sandbox) β) (d : Directory) (w : Sandbox) :
    (x >>= f) d w = f (x d w).1.1 (x d w).1.2 (x d w).2 := rfl

section

variable {w : Sandbox} {f : Tree → Except FileError Tree}

theorem change_of_ok {t' : Tree} (h : f w.tree = .ok t') :
    w.change f = (.ok (), { w with tree := t' }) := by
  rw [Sandbox.change, h]

theorem change_of_error {e : FileError} (h : f w.tree = .error e) :
    w.change f = (.error e, w) := by
  rw [Sandbox.change, h]

end

/-- Taking an artifact back removes its file, if that can be done. -/
theorem release_run (a : Artifact) (d : Directory) (w : Sandbox) :
    ∃ said, (release a d : StateM Sandbox _) w =
      (((), d.forget a.location), { w with tree := without w.tree a.location, said := said }) := by
  have hd : (if d.current = some a.location then { d with current := none } else d) =
      d.forget a.location := by
    unfold forget
    split <;> rfl
  unfold release without
  rw [hd, run_bind]
  cases h : w.tree.remove a.location with
  | ok t' =>
    have hremove : (Files.remove a.location : StateM Sandbox _) w =
        (.ok (), { w with tree := t' }) := change_of_ok h
    rw [hremove]
    exact ⟨w.said, rfl⟩
  | error e =>
    have hremove : (Files.remove a.location : StateM Sandbox _) w = (.error e, w) :=
      change_of_error h
    rw [hremove]
    exact ⟨_, rfl⟩

/-- The files behind the taking back of an artifact, if there is one. -/
def released (t : Tree) : Option Artifact → Tree
  | none => t
  | some a => without t a.location

/-- What an emptying leads to. -/
theorem clear_eq (s : Scene) : s.clear.slot = .empty ∧
    s.clear.directory = (s.slot.live.map fun a => s.directory.forget a.location).getD s.directory ∧
    s.clear.tree = released s.tree s.slot.live := by
  obtain ⟨⟨live⟩, d, w⟩ := s
  cases live with
  | none => exact ⟨rfl, rfl, rfl⟩
  | some a =>
    obtain ⟨said, hr⟩ := release_run a d w
    have hact : Scene.clear ⟨⟨some a⟩, d, w⟩ =
        let ((_, d), w) := (release a d : StateM Sandbox _) w
        ⟨.empty, d, w⟩ := rfl
    rw [hact, hr]
    exact ⟨rfl, rfl, rfl⟩

theorem clear_spent (s : Scene) : s.clear.directory.path = s.directory.path ∧
    s.clear.directory.spent = s.directory.spent := by
  rw [(clear_eq s).2.1]
  cases s.slot.live <;> exact ⟨rfl, rfl⟩

/-- What is shown stays if it is not what is taken back. -/
theorem directory_clear_of_ne {s : Scene}
    (h : ∀ a, s.slot.live = some a → s.directory.current ≠ some a.location) :
    s.clear.directory = s.directory := by
  rw [(clear_eq s).2.1]
  cases hl : s.slot.live with
  | none => rfl
  | some a => rw [Option.map_some, Option.getD_some, forget, if_neg (h a hl)]

theorem slot_clear (s : Scene) : { s.clear with slot := ⟨none⟩ } = s.clear := by
  show Scene.mk .empty s.clear.directory s.clear.sandbox = s.clear
  rw [← (clear_eq s).1]

section

variable {path : String} {t : Tree} {shown : Option Artifact}

/-- The artifacts of a directory are numbered. -/
def Numbered (path : String) (shown : Option Artifact) : Prop :=
  ∀ a, shown = some a → a.location = location path a.id

theorem keeps_released (hn : Numbered path shown) : t.Keeps (released t shown) := by
  cases shown with
  | none => exact .refl t
  | some a =>
    rw [released, hn a rfl]
    exact keeps_without t path a.id

/-- The file of an artifact that is taken back is gone, and the others are as they were. -/
theorem held_released (hn : Numbered path shown)
    (hp : ∀ a, shown = some a → held path t a.id ≠ none →
      t.place a.location = .ok (placeOf path a.id)) (id : Nat) :
    held path (released t shown) id =
      if shown.map Artifact.id = some id then none else held path t id := by
  cases shown with
  | none => rfl
  | some a =>
    have ha := hn a rfl
    have hgone : held path (without t (location path a.id)) id =
        if id = a.id then none else held path t id :=
      held_without (fun hh => ha ▸ hp a rfl hh) id
    rw [released, ha, hgone]
    simp only [Option.map_some, Option.some.injEq, eq_comm]

end

/-! ## One installation -/

/-- The directory behind the spending of a number. -/
def spend (d : Directory) : Directory := { d with spent := d.spent + 1 }

/-- The next artifact. -/
def next (d : Directory) : Artifact := ⟨d.spent + 1, d.pathOf (d.spent + 1)⟩

/-- What an attempt to make an artifact leads to. -/
inductive Creates (d : Directory) (w : Sandbox) (document : String) :
    Except SurfaceError Artifact × Directory → Sandbox → Prop
  /-- The directory cannot be made. -/
  | unmade (e : FileError) (h : w.tree.createDirectories d.path = .error e) :
    Creates d w document (.error (.failed "create directory for"), d) w
  /-- The file cannot be written; its number is spent. -/
  | unwritten (t₁ : Tree) (e : FileError) (h₁ : w.tree.createDirectories d.path = .ok t₁)
    (h₂ : t₁.write (next d).location (Text.encode document) = .error e) :
    Creates d w document (.error (.failed "write"), d.spend) { w with tree := t₁ }
  | written (t₁ t₂ : Tree) (h₁ : w.tree.createDirectories d.path = .ok t₁)
    (h₂ : t₁.write (next d).location (Text.encode document) = .ok t₂) :
    Creates d w document (.ok (next d), d.spend) { w with tree := t₂ }

theorem creates (d : Directory) (w : Sandbox) (document : String) :
    Creates d w document ((create document d : StateM Sandbox _) w).1
      ((create document d : StateM Sandbox _) w).2 := by
  unfold create
  rw [run_bind]
  cases h₁ : w.tree.createDirectories d.path with
  | error e =>
    have hmake : (Files.createDirectories d.path : StateM Sandbox _) w = (.error e, w) :=
      change_of_error h₁
    rw [hmake]
    exact .unmade e h₁
  | ok t₁ =>
    have hmake : (Files.createDirectories d.path : StateM Sandbox _) w =
        (.ok (), { w with tree := t₁ }) := change_of_ok h₁
    rw [hmake]
    dsimp only
    rw [run_bind]
    cases h₂ : t₁.write (next d).location (Text.encode document) with
    | error e =>
      have hwrite : (Files.write (pathOf { d with spent := d.spent + 1 } (d.spent + 1))
          (Text.encode document) : StateM Sandbox _) { w with tree := t₁ } =
            (.error e, { w with tree := t₁ }) := change_of_error h₂
      rw [hwrite]
      exact .unwritten t₁ e h₁ h₂
    | ok t₂ =>
      have hwrite : (Files.write (pathOf { d with spent := d.spent + 1 } (d.spent + 1))
          (Text.encode document) : StateM Sandbox _) { w with tree := t₁ } =
            (.ok (), { w with tree := t₂ }) := change_of_ok h₂
      rw [hwrite]
      exact .written t₁ t₂ h₁ h₂

theorem display_of_isFile {a : Artifact} {w : Sandbox} (d : Directory)
    (h : w.tree.isFile a.location = true) : (display a d : StateM Sandbox _) w =
      ((.ok (), { d with current := some a.location }), w) := by
  unfold display
  rw [run_bind]
  have hfile : (Files.isFile a.location : StateM Sandbox _) w = (true, w) :=
    congrArg (·, w) h
  rw [hfile]
  rfl

/-- The directory behind a presentation. -/
def showing (d : Directory) : Except SurfaceError Artifact → Directory
  | .ok a => { d with current := some a.location }
  | .error _ => d

/-- What presenting a document leads to: an artifact that was made is shown. -/
theorem present_eq (d : Directory) (w : Sandbox) (document : String) :
    ∃ answer d' w', Creates d w document (answer, d') w' ∧
      (surface.present document : StateT Directory (StateM Sandbox) _) d w =
        ((answer, d'.showing answer), w') := by
  have hc := creates d w document
  have hcreate : (surface.create document : StateT Directory (StateM Sandbox) _) d w =
      (create document d : StateM Sandbox _) w := rfl
  unfold Preview.Surface.present
  rw [run_bind_directory, hcreate]
  generalize (create document d : StateM Sandbox _) w = made at hc
  obtain ⟨⟨answer, d'⟩, w'⟩ := made
  refine ⟨answer, d', w', hc, ?_⟩
  cases hc with
  | unmade e h => rfl
  | unwritten t₁ e h₁ h₂ => rfl
  | written t₁ t₂ h₁ h₂ =>
    have hd : (surface.display (next d) : StateT Directory (StateM Sandbox) _) d.spend
        { w with tree := t₂ } = ((.ok (), d.spend.showing (.ok (next d))), { w with tree := t₂ }) :=
      display_of_isFile d.spend (isFile_of_write h₂)
    dsimp only
    rw [run_bind_directory, hd]
    rfl

/-- An installation makes an artifact, shows it, and takes the one before back. -/
theorem install_eq (s : Scene) (document : String) :
    ∃ answer d w, Creates s.directory s.sandbox document (answer, d) w ∧
      s.install document = (answer,
        { (Scene.mk s.slot (d.showing answer) w).clear with slot := ⟨answer.toOption⟩ }) := by
  obtain ⟨answer, d, w, hc, hact⟩ := present_eq s.directory s.sandbox document
  refine ⟨answer, d, w, hc, ?_⟩
  unfold Scene.install Slot.install
  dsimp only
  rw [run_bind_directory, hact]
  cases answer with
  | ok a => rfl
  | error e =>
    obtain ⟨⟨live⟩, before, sandbox⟩ := s
    cases live <;> rfl

end LivePreview.Surface.Directory
