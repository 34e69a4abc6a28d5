import LivePreview.Proofs.Surface.Scene

/-!
# One file per live artifact

1. A history says which artifact is live and which file is to be expected (`live`, `kept`), and
   which paths were used up (`used`).
2. A scene `Matches` its history: with the slot, with what is shown, and with every file of a
   number. Emptyings, installations and deeds keep this.
3. It `Accounts` for the paths: those used up are the ones of the numbers that were spent, so that
   none is used twice.
4. Both hold behind every run (`one_file_per_live_artifact`).
-/

namespace LivePreview.Surface.Directory

open Files
open Preview (Artifact Slot)

/-! ## What a history leaves -/

/-- The artifact that a history leaves live. -/
def live : List Event → Option Artifact
  | [] => none
  | .installed _ (.ok a) _ :: _ => some a
  | .installed _ (.error _) _ :: _ | .cleared :: _ => none
  | .other _ :: past => live past

/-- The artifact whose file a history leaves, with its document: the live one, unless others deleted
the file. -/
def kept : List Event → Option (Artifact × String)
  | [] => none
  | .installed document (.ok a) _ :: _ => some (a, document)
  | .installed _ (.error _) _ :: _ | .cleared :: _ => none
  | .other deed :: past => (kept past).filter fun (a, _) => !deed.deletes a.id

/-- The paths that a history used up. -/
def used : List Event → List String
  | [] => []
  | .installed _ _ (some tried) :: past => tried :: used past
  | .installed _ _ none :: past | .cleared :: past | .other _ :: past => used past

/-- How many documents were installed, or were to be. -/
def installations : List Event → Nat
  | [] => 0
  | .installed .. :: past => installations past + 1
  | .cleared :: past | .other _ :: past => installations past

/-- What the file of a number is to hold, if a file is kept. -/
def content (file : Option (Artifact × String)) (id : Nat) : Option ByteArray :=
  file.bind fun (a, document) => if a.id = id then some (Text.encode document) else none

/-- A file that is kept is that of the live artifact. -/
theorem live_of_kept {past : List Event} {a : Artifact} {document : String}
    (h : kept past = some (a, document)) : live past = some a := by
  induction past with
  | nil => cases h
  | cons e past ih =>
    cases e with
    | installed document answer tried =>
      cases answer with
      | ok a' => cases h; rfl
      | error e => cases h
    | cleared => cases h
    | other deed => exact ih (Option.filter_eq_some_iff.mp h).1

/-! ## Scenes and their histories -/

/-- A scene is as its history says. -/
structure Matches (path : String) (past : List Event) (s : Scene) : Prop where
  directory : s.directory.path = path
  slot : s.slot.live = live past
  current : s.directory.current = (live past).map Artifact.location
  /-- The live artifact has a number that was spent. -/
  numbered : ∀ a, live past = some a →
    a.location = location path a.id ∧ a.id ≤ s.directory.spent
  files : ∀ id, held path s.tree id = content (kept past) id
  /-- The path of a file that is kept leads to it. -/
  placed : ∀ a document, kept past = some (a, document) →
    s.tree.place a.location = .ok (placeOf path a.id)

section

variable {path : String} {past : List Event} {s : Scene}

theorem content_of_ne {id : Nat} (h : (live past).map Artifact.id ≠ some id) :
    content (kept past) id = none := by
  cases hk : kept past with
  | none => rfl
  | some file =>
    obtain ⟨a, document⟩ := file
    rw [live_of_kept hk] at h
    exact if_neg fun he => h (congrArg some he)

theorem kept_of_content {id : Nat} (h : content (kept past) id ≠ none) :
    ∃ a document, kept past = some (a, document) ∧ a.id = id := by
  cases hk : kept past with
  | none => rw [hk] at h; exact absurd rfl h
  | some file =>
    obtain ⟨a, document⟩ := file
    rw [hk] at h
    by_cases hid : a.id = id
    · exact ⟨a, document, rfl, hid⟩
    · exact absurd (if_neg hid) h

/-- A file that is deleted holds nothing, and another is as it was. -/
theorem content_filter (file : Option (Artifact × String)) (deletes : Nat → Bool) (id : Nat) :
    content (file.filter fun (a, _) => !deletes a.id) id =
      if deletes id then none else content file id := by
  cases file with
  | none => simp [content]
  | some file =>
    obtain ⟨a, document⟩ := file
    by_cases hid : a.id = id
    · subst hid
      by_cases hd : deletes a.id = true <;> simp [content, Option.filter, hd]
    · by_cases hd : deletes a.id = true <;> simp [content, Option.filter, hd, hid]

theorem Matches.numbered_live (hm : Matches path past s) : Numbered path (live past) :=
  fun a ha => (hm.numbered a ha).1

/-- The live artifact's file can be found while directories stay. -/
theorem Matches.place_live (hm : Matches path past s) {t : Tree} (hk : s.tree.Keeps t)
    {a : Artifact} (ha : live past = some a) (hh : held path s.tree a.id ≠ none) :
    t.place a.location = .ok (placeOf path a.id) := by
  rw [hm.files] at hh
  obtain ⟨a', document, hkept, hid⟩ := kept_of_content hh
  have haa : a' = a := Option.some.inj ((live_of_kept hkept).symm.trans ha)
  exact hk.place_ok (haa ▸ hm.placed a' document hkept)

/-- Histories that leave the same behind match the same scenes. -/
theorem Matches.congr {past' : List Event} (hm : Matches path past s)
    (hl : live past' = live past) (hk : kept past' = kept past) :
    Matches path past' s :=
  ⟨hm.directory, hl ▸ hm.slot, hl ▸ hm.current, hl ▸ hm.numbered, hk ▸ hm.files, hk ▸ hm.placed⟩

/-- An emptying leaves nothing. -/
theorem Matches.clear (hm : Matches path past s) : Matches path (.cleared :: past) s.clear := by
  obtain ⟨hslot, hdir, htree⟩ := clear_eq s
  refine ⟨(clear_spent s).1.trans hm.directory, congrArg Slot.live hslot, ?_, nofun,
    fun id => ?_, nofun⟩
  · -- what is shown is what is taken back
    have hcurrent := hm.current
    rw [hdir, hm.slot]
    cases hl : live past with
    | none =>
      rw [hl] at hcurrent
      exact hcurrent
    | some a =>
      rw [hl] at hcurrent
      exact if_pos hcurrent
  · have hp := fun a ha => hm.place_live (.refl _) (a := a) ha
    rw [htree, hm.slot, held_released hm.numbered_live hp, hm.files]
    show _ = none
    split
    · rfl
    · rename_i h
      exact content_of_ne h

/-- Making the directory and spending a number change nothing that counts. -/
theorem Matches.spend (hm : Matches path past s) {t : Tree}
    (h : s.tree.createDirectories s.directory.path = .ok t) :
    Matches path past (Scene.withTree { s with directory := s.directory.spend } t) := by
  have hk := Tree.keeps_createDirectories h
  refine ⟨hm.directory, hm.slot, hm.current, fun a ha => ?_, fun id => ?_, fun a document ha => ?_⟩
  · obtain ⟨hloc, hle⟩ := hm.numbered a ha
    exact ⟨hloc, Nat.le_succ_of_le hle⟩
  · exact (held_createDirectories h id).trans (hm.files id)
  · exact hk.place_ok (hm.placed a document ha)

theorem Matches.location_next (hm : Matches path past s) :
    (next s.directory).location = location path (next s.directory).id :=
  congrArg (location · (s.directory.spent + 1)) hm.directory

/-- The number of the next artifact is not that of the live one. -/
theorem Matches.id_ne_next (hm : Matches path past s) {a : Artifact} (ha : live past = some a) :
    a.id ≠ (next s.directory).id :=
  Nat.ne_of_lt (Nat.lt_succ_of_le (hm.numbered a ha).2)

theorem Matches.location_ne_next (hm : Matches path past s) {a : Artifact}
    (ha : live past = some a) : a.location ≠ (next s.directory).location := by
  rw [(hm.numbered a ha).1, hm.location_next]
  exact fun he => hm.id_ne_next ha (location_inj he)

/-- What is there behind the writing of the next file. -/
theorem Matches.wrote (hm : Matches path past s) {t₁ t₂ : Tree} {document : String}
    (h₁ : s.tree.createDirectories s.directory.path = .ok t₁)
    (h₂ : t₁.write (next s.directory).location (Text.encode document) = .ok t₂) :
    s.tree.Keeps t₂ ∧
      t₂.place (next s.directory).location = .ok (placeOf path (next s.directory).id) ∧
      ∀ id, held path t₂ id = if id = (next s.directory).id then some (Text.encode document)
        else content (kept past) id := by
  rw [hm.location_next] at h₂ ⊢
  have hplace := place_of_write h₂
  obtain ⟨hvacant, rfl⟩ := (write_location_ok_iff hplace).mp h₂
  have hset := Tree.keeps_set_file hvacant (Text.encode document)
  refine ⟨(Tree.keeps_createDirectories h₁).trans hset, hset.place_ok hplace, fun id => ?_⟩
  rw [held_set, held_createDirectories h₁, hm.files]

/-- With the artifact before taken back, the new file is the only one. -/
theorem Matches.held_replaced (hm : Matches path past s) {t₁ t₂ : Tree} {document : String}
    (h₁ : s.tree.createDirectories s.directory.path = .ok t₁)
    (h₂ : t₁.write (next s.directory).location (Text.encode document) = .ok t₂) (id : Nat) :
    held path (released t₂ (live past)) id = content (some (next s.directory, document)) id := by
  obtain ⟨hk, -, hheld⟩ := hm.wrote h₁ h₂
  have hplace : ∀ a, live past = some a → held path t₂ a.id ≠ none →
      t₂.place a.location = .ok (placeOf path a.id) := by
    intro a ha hh
    rw [hheld, if_neg (hm.id_ne_next ha), ← hm.files] at hh
    exact hm.place_live hk ha hh
  show _ = if (next s.directory).id = id then _ else _
  rw [held_released hm.numbered_live hplace, hheld]
  by_cases hid : id = (next s.directory).id
  · have hold : (live past).map Artifact.id ≠ some id := by
      rw [hid, ne_eq, Option.map_eq_some_iff]
      rintro ⟨a, ha, he⟩
      exact hm.id_ne_next ha he
    rw [if_neg hold, if_pos hid, if_pos hid.symm]
  · rw [if_neg hid, if_neg (Ne.symm hid)]
    by_cases hold : (live past).map Artifact.id = some id
    · rw [if_pos hold]
    · rw [if_neg hold, content_of_ne hold]

/-- An installation that succeeds leaves the new artifact. -/
theorem Matches.shown (hm : Matches path past s) {s₂ : Scene} {t₁ : Tree} {document : String}
    {tried : Option String} (h₁ : s.tree.createDirectories s.directory.path = .ok t₁)
    (h₂ : t₁.write (next s.directory).location (Text.encode document) = .ok s₂.tree)
    (hs : s₂.slot = s.slot)
    (hd : s₂.directory = { s.directory.spend with current := some (next s.directory).location }) :
    Matches path (.installed document (.ok (next s.directory)) tried :: past)
      { s₂.clear with slot := ⟨some (next s.directory)⟩ } := by
  have htree : s₂.clear.tree = released s₂.tree (live past) := by
    rw [(clear_eq s₂).2.2, hs, hm.slot]
  -- what is shown is the new artifact, not the one that is taken back
  have hdir : s₂.clear.directory = s₂.directory := by
    refine directory_clear_of_ne fun a ha he => ?_
    rw [hs, hm.slot] at ha
    rw [hd] at he
    exact hm.location_ne_next ha (Option.some.inj he).symm
  rw [hd] at hdir
  refine ⟨?_, rfl, congrArg Directory.current hdir, ?_, fun id => ?_, ?_⟩
  · exact (congrArg Directory.path hdir).trans hm.directory
  · rintro a ha
    cases ha
    exact ⟨hm.location_next, Nat.le_of_eq (congrArg Directory.spent hdir).symm⟩
  · exact (congrArg (held path · id) htree).trans (hm.held_replaced h₁ h₂ id)
  · rintro a document' ha
    cases ha
    show s₂.clear.tree.place _ = _
    rw [htree]
    exact (keeps_released hm.numbered_live).place_ok (hm.wrote h₁ h₂).2.1

/-- Every installation leaves what its history says. -/
theorem Matches.install (hm : Matches path past s) (document : String) (tried : Option String) :
    Matches path (.installed document (s.install document).1 tried :: past)
      (s.install document).2 := by
  obtain ⟨answer, d, w, hc, heq⟩ := install_eq s document
  rw [heq]
  cases hc with
  | unmade e h =>
    show Matches path _ { s.clear with slot := ⟨none⟩ }
    rw [slot_clear]
    exact hm.clear.congr rfl rfl
  | unwritten t₁ e h₁ h₂ =>
    show Matches path _ { (Scene.withTree { s with directory := s.directory.spend } t₁).clear with
      slot := ⟨none⟩ }
    rw [slot_clear]
    exact (hm.spend h₁).clear.congr rfl rfl
  | written t₁ t₂ h₁ h₂ => exact hm.shown h₁ h₂ rfl rfl

/-- Deeds of others delete files of numbers at most. -/
theorem Matches.other (hm : Matches path past s) (deed : Deed) :
    Matches path (.other deed :: past) (s.withTree (deed.apply s.directory.path s.tree)) := by
  refine ⟨hm.directory, hm.slot, hm.current, hm.numbered, fun id => ?_, fun a document ha => ?_⟩
  · show held path (deed.apply s.directory.path s.tree) id = _
    rw [hm.directory, held_apply, hm.files, kept, content_filter]
  · obtain ⟨hkept, hnot⟩ := Option.filter_eq_some_iff.mp ha
    have hne : deed ≠ .wipe := by
      rintro rfl
      cases hnot
    exact (keeps_apply _ _ hne).place_ok (hm.placed a document hkept)

/-- Every move leaves what its history says. -/
theorem Matches.take (hm : Matches path past s) (move : Move) :
    Matches path ((s.take move).1 :: past) (s.take move).2 := by
  cases move with
  | install document => exact hm.install document _
  | clear => exact hm.clear
  | other deed => exact hm.other deed

/-- Nothing was installed, and no file of a number is there. -/
theorem Matches.opened {sandbox : Sandbox} (h : ∀ id, held path sandbox.tree id = none) :
    Matches path [] (.opened path sandbox) :=
  ⟨rfl, rfl, rfl, nofun, h, nofun⟩

end

/-! ## Paths that were used up -/

/-- The paths used up are those of the numbers that were spent. -/
structure Accounts (path : String) (past : List Event) (s : Scene) : Prop where
  directory : s.directory.path = path
  spent : used past = (List.range s.directory.spent).reverse.map fun n => location path (n + 1)
  answered : ∀ document a tried, .installed document (.ok a) tried ∈ past →
    tried = some a.location

section

variable {path : String} {past : List Event} {s : Scene}

/-- An installation spends no number and fails, or spends the next one, which is that of the
artifact if it succeeds. -/
theorem spent_install (s : Scene) (document : String) :
    (s.install document).2.directory.path = s.directory.path ∧
    ((s.install document).2.directory.spent = s.directory.spent ∧
        (∃ e, (s.install document).1 = .error e) ∨
      (s.install document).2.directory.spent = s.directory.spent + 1 ∧
        ∀ a, (s.install document).1 = .ok a → a = next s.directory) := by
  obtain ⟨answer, d, w, hc, heq⟩ := install_eq s document
  obtain ⟨hpath, hspent⟩ := clear_spent (Scene.mk s.slot (d.showing answer) w)
  rw [heq]
  cases hc with
  | unmade e h => exact ⟨hpath, .inl ⟨hspent, _, rfl⟩⟩
  | unwritten t₁ e h₁ h₂ => exact ⟨hpath, .inr ⟨hspent, nofun⟩⟩
  | written t₁ t₂ h₁ h₂ =>
    refine ⟨hpath, .inr ⟨hspent, ?_⟩⟩
    rintro a ha
    cases ha
    rfl

theorem Accounts.install (ha : Accounts path past s) (document : String) :
    Accounts path ((s.take (.install document)).1 :: past) (s.take (.install document)).2 := by
  show Accounts path (.installed document (s.install document).1 (s.tried (s.install document).2)
    :: past) (s.install document).2
  obtain ⟨hpath, ⟨hspent, e, he⟩ | ⟨hspent, hok⟩⟩ := spent_install s document
  · have htried : s.tried (s.install document).2 = none := if_pos hspent
    rw [htried]
    refine ⟨hpath.trans ha.directory, ?_, fun document' a tried hm => ?_⟩
    · rw [hspent]
      exact ha.spent
    · rcases List.mem_cons.mp hm with heq | hm
      · rw [he] at heq
        cases heq
      · exact ha.answered document' a tried hm
  · have htried : s.tried (s.install document).2 =
        some (location path (s.directory.spent + 1)) := by
      rw [Scene.tried, if_neg (by omega), pathOf_eq, hspent, hpath, ha.directory]
    rw [htried]
    refine ⟨hpath.trans ha.directory, ?_, fun document' a tried hm => ?_⟩
    · rw [hspent, List.range_succ, List.reverse_append, List.map_append, ← ha.spent]
      rfl
    · rcases List.mem_cons.mp hm with heq | hm
      · injection heq with hdoc hanswer htried
        rw [hok a hanswer.symm, htried, ← ha.directory]
        rfl
      · exact ha.answered document' a tried hm

theorem Accounts.take (ha : Accounts path past s) (move : Move) :
    Accounts path ((s.take move).1 :: past) (s.take move).2 := by
  have hanswered : ∀ event : Event,
      (∀ document a tried, event ≠ .installed document (.ok a) tried) →
        ∀ document a tried, .installed document (.ok a) tried ∈ event :: past →
          tried = some a.location := by
    intro event hne document a tried hm
    rcases List.mem_cons.mp hm with heq | hm
    · exact absurd heq.symm (hne document a tried)
    · exact ha.answered document a tried hm
  cases move with
  | install document => exact ha.install document
  | clear =>
    obtain ⟨hpath, hspent⟩ := clear_spent s
    refine ⟨hpath.trans ha.directory, ?_, hanswered _ nofun⟩
    show used past = (List.range s.clear.directory.spent).reverse.map _
    rw [hspent]
    exact ha.spent
  | other deed => exact ⟨ha.directory, ha.spent, hanswered _ nofun⟩

theorem Accounts.opened (sandbox : Sandbox) : Accounts path [] (.opened path sandbox) :=
  ⟨rfl, rfl, nofun⟩

/-- Each installation uses up one path at most. -/
theorem length_used_le (past : List Event) : (used past).length ≤ installations past := by
  induction past with
  | nil => exact Nat.le_refl 0
  | cons event past ih =>
    cases event with
    | installed document answer tried =>
      cases tried with
      | none => exact Nat.le_succ_of_le ih
      | some tried => exact Nat.succ_le_succ ih
    | cleared | other deed => exact ih

/-- Each installation spends one number at most. -/
theorem Accounts.spent_le (ha : Accounts path past s) :
    s.directory.spent ≤ installations past := by
  have hlength := congrArg List.length ha.spent
  rw [List.length_map, List.length_reverse, List.length_range] at hlength
  exact hlength ▸ length_used_le past

/-- No path is used up twice. -/
theorem Accounts.nodup (ha : Accounts path past s) : (used past).Nodup := by
  rw [ha.spent, List.Nodup, List.pairwise_map, List.pairwise_reverse]
  exact List.nodup_range.imp fun hne he => hne (Nat.succ.inj (location_inj he.symm))

end

/-! ## The main theorem -/

/-- An installation succeeds exactly if nothing stands in the way of the next file. -/
theorem install_ok_iff {path : String} {s : Scene} (hd : s.directory.path = path)
    (document : String) : (∃ a, (s.install document).1 = .ok a) ↔
      Unobstructed path s.tree (s.directory.spent + 1) := by
  subst hd
  obtain ⟨answer, d, w, hc, heq⟩ := install_eq s document
  rw [heq, ← written_iff (Text.encode document)]
  cases hc with
  | unmade e h =>
    refine ⟨nofun, ?_⟩
    rintro ⟨t₁, t₂, h₁, -⟩
    rw [Scene.tree, h] at h₁
    cases h₁
  | unwritten t₁ e h₁ h₂ =>
    refine ⟨nofun, ?_⟩
    rintro ⟨t₁', t₂, h₁', h₂'⟩
    rw [Scene.tree, h₁] at h₁'
    cases h₁'
    exact nomatch h₂.symm.trans h₂'
  | written t₁ t₂ h₁ h₂ => exact ⟨fun _ => ⟨t₁, t₂, h₁, h₂⟩, fun _ => ⟨_, rfl⟩⟩

/-- The file that is kept can be read under the artifact's location. -/
theorem Matches.read {path : String} {past : List Event} {s : Scene} (hm : Matches path past s)
    {a : Artifact} {document : String} (hk : kept past = some (a, document)) :
    s.tree.read a.location = .ok (Text.encode document) := by
  have hplace := hm.placed a document hk
  have hheld : held path s.tree a.id = some (Text.encode document) := by
    rw [hm.files, hk]
    exact if_pos rfl
  have hask : Tree.asksDirectory a.location = false := by
    rw [(hm.numbered a (live_of_kept hk)).1]
    exact asksDirectory_location path a.id
  rw [Tree.read, Tree.find_of_place hask hplace, held_eq_some_iff.mp hheld]

/-- **One file per live artifact.** Let no file of a number be in a directory at first. However
documents are installed and the slot is emptied, and whatever others do in between:

1. The slot has the artifact that the history leaves live, and the directory shows it.
2. The only file of a number is that of the live artifact, and it holds the document last installed,
   unless others deleted it. It is read under the artifact's location.
3. No path is used twice, whether its file could be written or not. Each installation spends one
   number at most, so that 64 bits are enough for fewer than `2 ^ 64` of them.
4. An installation that fails leaves nothing: no artifact, none shown, and no file.
5. An installation succeeds exactly if nothing stands in the way of the next number's file. -/
theorem one_file_per_live_artifact (path : String) (sandbox : Sandbox)
    (hnone : ∀ id, held path sandbox.tree id = none) (moves : List Move) :
    let past := ((Scene.opened path sandbox).run [] moves).1
    let s := ((Scene.opened path sandbox).run [] moves).2
    (s.slot.live = live past ∧ s.directory.current = (live past).map Artifact.location) ∧
    ((∀ id, held path s.tree id = content (kept past) id) ∧
      ∀ a document, kept past = some (a, document) →
        live past = some a ∧ s.tree.read a.location = .ok (Text.encode document)) ∧
    ((used past).Nodup ∧ (∀ document a tried, .installed document (.ok a) tried ∈ past →
      tried = some a.location) ∧ s.directory.spent ≤ installations past) ∧
    (∀ document e, (s.install document).1 = .error e →
      (s.install document).2.slot.live = none ∧ (s.install document).2.directory.current = none ∧
        ∀ id, held path (s.install document).2.tree id = none) ∧
    ∀ document, (∃ a, (s.install document).1 = .ok a) ↔
      Unobstructed path s.tree (s.directory.spent + 1) := by
  intro past s
  have hm : Matches path past s :=
    Scene.run_induction (fun _ _ move hm => hm.take move) (Matches.opened hnone) moves
  have ha : Accounts path past s :=
    Scene.run_induction (fun _ _ move ha => ha.take move) (Accounts.opened sandbox) moves
  refine ⟨⟨hm.slot, hm.current⟩, ⟨hm.files, fun a document hk => ⟨live_of_kept hk, hm.read hk⟩⟩,
    ⟨ha.nodup, ha.answered, ha.spent_le⟩, fun document e he => ?_, install_ok_iff hm.directory⟩
  -- a history that ends in a failure leaves neither an artifact nor a file
  have hfailed := hm.install document none
  rw [he] at hfailed
  exact ⟨hfailed.slot, hfailed.current, hfailed.files⟩

/-- A directory that is deleted, blocked by a file and freed again, and a directory in place of the
third file: two installations fail, and the one behind them is the only one to be seen. -/
theorem one_file_per_live_artifact_out :
    let run := (Scene.opened "out" .empty).run [] [.install "a", .install "b", .other .wipe,
      .other (.block .empty), .install "c", .other .unblock, .other (.occupy 3), .install "d",
      .install "e"]
    (∀ id, held "out" Sandbox.empty.tree id = none) ∧
    live run.1 = some ⟨4, "out/preview-4.html"⟩ ∧
    run.2.directory.current = some "out/preview-4.html" ∧
    held "out" run.2.tree 4 = some (Text.encode "e") ∧
    used run.1 = ["out/preview-4.html", "out/preview-3.html", "out/preview-2.html",
      "out/preview-1.html"] := by
  intro run
  have hnone : ∀ id, held "out" Sandbox.empty.tree id = none := by
    intro id
    have hitem := Tree.item?_of_ne_nil Tree.empty (placeOf_ne_nil "out" id)
    rw [held, Sandbox.empty, hitem]
    rfl
  have h := one_file_per_live_artifact "out" .empty hnone [.install "a", .install "b", .other .wipe,
      .other (.block .empty), .install "c", .other .unblock, .other (.occupy 3), .install "d",
      .install "e"]
  have hlive : live run.1 = some ⟨4, "out/preview-4.html"⟩ := by decide +kernel
  have hkept : kept run.1 = some (⟨4, "out/preview-4.html"⟩, "e") := by decide +kernel
  refine ⟨hnone, hlive, ?_, ?_, ?_⟩
  · rw [h.1.2, hlive]
    rfl
  · rw [h.2.1.1, hkept]
    rfl
  · decide +kernel

end LivePreview.Surface.Directory
