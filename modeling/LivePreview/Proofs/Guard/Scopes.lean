import LivePreview.Proofs.Guard.Binding
import LivePreview.Proofs.Script.Scopes

/-!
# Whose variables the names of a guarded script mean

The guard does not look at the names of a script.

1. What it declares for a loop holds right around the loop. So a name of the script means the
   variable of a loop exactly if it has its name and stands in the loop, with nothing in between
   that binds it (`ownerOf_eq_guard_iff`); else it means what it meant (`ownerOf_eq_of_ne_guard`).
2. The check of a loop stands in the loop's body, and so it reads what the script binds there or
   further out under one of its three names (`check_reads_iff`).
3. A script without the numbered names is left alone (`guard_names_in_scope`). Other scripts may
   count in the variable of the guard or be asked for the time (`guard_takes_names`).

Only declarations make variables here: what `with` or `eval` bring in while a script runs is not
looked at. Nor is it looked at that a `var` may not go through a block that declares its name; a
loop that holds a `var` of its own numbered name is refused where it is run.
-/

namespace LivePreview.Guard

open Script (Node Place Program Span)

/-! ## Whose variable a name is -/

/-- Who makes a variable. -/
inductive Owner where
  | script
  /-- The guard, for a loop. -/
  | guard (seq : Nat)
deriving DecidableEq

/-- Variables with their owner, which hold in a part of a script. -/
structure Scope where
  owner : Owner
  names : List String

/-- The owner of the variable that a name means where some scopes hold, the innermost first. A
variable of the surroundings has none. -/
def ownerOf (scopes : List Scope) (name : String) : Option Owner :=
  (scopes.find? fun scope => scope.names.contains name).map Scope.owner

theorem ownerOf_cons (scope : Scope) (scopes : List Scope) (name : String) :
    ownerOf (scope :: scopes) name =
      if name ∈ scope.names then some scope.owner else ownerOf scopes name := by
  unfold ownerOf
  rw [List.find?_cons]
  by_cases h : name ∈ scope.names <;> simp [h]

/-- The scopes inside some nodes of a script that binds `top`, the innermost first. What the guard
declares for a loop, by its number, holds right around the loop. -/
def scopesIn (number : Node → Option Nat) (top : List String) : List Node → List Scope
  | [] => [⟨.script, top⟩]
  | n :: around =>
    ⟨.script, n.binds⟩ ::
      (((number n).map fun k => ⟨.guard k, [bindingOf k]⟩).toList ++ scopesIn number top around)

/-- Loop `k` stands around, and neither it nor anything inside it binds a name. -/
def Exposes (number : Node → Option Nat) (k : Nat) (name : String) (around : List Node) : Prop :=
  ∃ inner loop outer, around = inner ++ loop :: outer ∧ number loop = some k ∧
    ∀ n ∈ inner ++ [loop], name ∉ n.binds

section

variable (number : Node → Option Nat) (top : List String)

theorem not_exposes_nil {k : Nat} {name : String} : ¬ Exposes number k name [] := by
  rintro ⟨inner, loop, outer, h, -⟩
  exact absurd h.symm (by simp)

theorem exposes_cons {k : Nat} {name : String} {n : Node} {around : List Node} :
    Exposes number k name (n :: around) ↔
      name ∉ n.binds ∧ (number n = some k ∨ Exposes number k name around) := by
  constructor
  · rintro ⟨inner, loop, outer, h, hloop, hbinds⟩
    rcases inner with _ | ⟨m, inner⟩
    · obtain ⟨rfl, rfl⟩ := List.cons.inj h
      exact ⟨hbinds _ (List.mem_singleton_self _), .inl hloop⟩
    · obtain ⟨rfl, rfl⟩ := List.cons.inj h
      obtain ⟨hn, hbinds⟩ := List.forall_mem_cons.mp hbinds
      exact ⟨hn, .inr ⟨inner, loop, outer, rfl, hloop, hbinds⟩⟩
  · rintro ⟨hn, hloop | ⟨inner, loop, outer, rfl, hloop, hbinds⟩⟩
    · exact ⟨[], n, around, rfl, hloop, List.forall_mem_singleton.mpr hn⟩
    · exact ⟨n :: inner, loop, outer, rfl, hloop, List.forall_mem_cons.mpr ⟨hn, hbinds⟩⟩

theorem ownerOf_scopesIn_cons (n : Node) (around : List Node) (name : String) :
    ownerOf (scopesIn number top (n :: around)) name =
      if name ∈ n.binds then some .script
      else if ∃ k, number n = some k ∧ name = bindingOf k then (number n).map .guard
      else ownerOf (scopesIn number top around) name := by
  rw [scopesIn, ownerOf_cons]
  cases hn : number n with
  | none => simp
  | some j =>
    rw [Option.map_some, Option.toList_some, List.singleton_append, ownerOf_cons]
    simp

/-- A name means the variable of loop `k` exactly if it has its name and stands in the loop with
nothing in between that binds it. -/
theorem ownerOf_eq_guard_iff (around : List Node) (name : String) (k : Nat) :
    ownerOf (scopesIn number top around) name = some (.guard k) ↔
      name = bindingOf k ∧ Exposes number k name around := by
  induction around with
  | nil =>
    have hnone : ownerOf (scopesIn number top []) name ≠ some (.guard k) := by
      rw [scopesIn, ownerOf_cons]
      split <;> simp [ownerOf]
    simp [hnone, not_exposes_nil]
  | cons n around ih =>
    rw [ownerOf_scopesIn_cons, exposes_cons]
    split
    next hbinds => simp [hbinds]
    next hbinds =>
      split
      next hown =>
        obtain ⟨j, hj, rfl⟩ := hown
        rw [hj]
        constructor
        · rintro h
          cases h
          exact ⟨rfl, hbinds, .inl rfl⟩
        · rintro ⟨h, -⟩
          rw [bindingOf_inj h]
          rfl
      next hown =>
        rw [ih]
        grind

/-- A name that means no variable of the guard means what it meant without the guard. -/
theorem ownerOf_eq_of_ne_guard {around : List Node} {name : String}
    (h : ∀ k, ownerOf (scopesIn number top around) name ≠ some (.guard k)) :
    ownerOf (scopesIn number top around) name =
      ownerOf (scopesIn (fun _ => none) top around) name := by
  induction around with
  | nil => rfl
  | cons n around ih =>
    rw [ownerOf_scopesIn_cons] at h ⊢
    rw [ownerOf_scopesIn_cons]
    split
    next => rfl
    next hbinds =>
      rw [if_neg hbinds] at h
      split
      next hown =>
        obtain ⟨j, hj, rfl⟩ := hown
        exact absurd (by simp [hj]) (h j)
      next hown =>
        rw [if_neg hown] at h
        rw [ih h, if_neg (by simp)]

/-- A name that no loop has means a variable of the script exactly if something around binds it. -/
theorem ownerOf_eq_script_iff {name : String} (hname : ∀ k, name ≠ bindingOf k)
    (around : List Node) :
    ownerOf (scopesIn number top around) name = some .script ↔
      name ∈ top ∨ ∃ n ∈ around, name ∈ n.binds := by
  induction around with
  | nil =>
    rw [scopesIn, ownerOf_cons]
    by_cases h : name ∈ top <;> simp [h, ownerOf]
  | cons n around ih =>
    rw [ownerOf_scopesIn_cons, if_neg (c := ∃ k, _) (by grind)]
    simp only [List.mem_cons, exists_eq_or_imp]
    split
    next h => simp [h]
    next h => rw [ih]; simp [h]

/-- Inside loop `k` the name of its variable means one of the script exactly if the loop, or what
stands in it, binds it. -/
theorem ownerOf_binding_eq_script_iff {loop : Node} {k : Nat} (hloop : number loop = some k)
    {inner : List Node} (hinner : ∀ n ∈ inner, number n = none) (around : List Node) :
    ownerOf (scopesIn number top (inner ++ loop :: around)) (bindingOf k) = some .script ↔
      ∃ n ∈ inner ++ [loop], bindingOf k ∈ n.binds := by
  induction inner with
  | nil =>
    rw [List.nil_append, ownerOf_scopesIn_cons, if_pos (c := ∃ k, _) ⟨k, hloop, rfl⟩, hloop]
    by_cases h : bindingOf k ∈ loop.binds <;> simp [h]
  | cons n inner ih =>
    obtain ⟨hn, hinner⟩ := List.forall_mem_cons.mp hinner
    rw [List.cons_append, ownerOf_scopesIn_cons, if_neg (c := ∃ k, _) (by simp [hn]),
      List.cons_append]
    simp only [List.mem_cons, exists_eq_or_imp]
    split
    next h => simp [h]
    next h => rw [ih hinner]; simp [h]

end


/-! ## Loops by their numbers -/

/-- The number that the guard gives to a loop of an outline. -/
def numberIn (outline : List Landmark) (n : Node) : Option Nat :=
  (outline.filter Landmark.isLoop).findIdx? fun landmark => (Landmark.ofNode n).contains landmark

theorem numberIn_eq_none {outline : List Landmark} {n : Node} (h : Landmark.ofNode n = []) :
    numberIn outline n = none := by
  unfold numberIn
  rw [h]
  exact List.findIdx?_eq_none_iff.mpr fun _ _ => rfl

theorem numberIn_lt {outline : List Landmark} {n : Node} {k : Nat}
    (h : numberIn outline n = some k) : k < loopsIn outline := by
  obtain ⟨hk, -⟩ := List.findIdx?_eq_some_iff_getElem.mp h
  unfold loopsIn
  rwa [List.countP_eq_length_filter]

/-- Each loop of an outline has a number. -/
theorem exists_numberIn {outline : List Landmark} {n : Node} {span body : Span} {isBlock : Bool}
    (h : Landmark.ofNode n = [.loop span body isBlock])
    (hmem : .loop span body isBlock ∈ outline) :
    ∃ k < loopsIn outline, numberIn outline n = some k ∧
      (outline.filter Landmark.isLoop)[k]? = some (.loop span body isBlock) := by
  have hloop : Landmark.loop span body isBlock ∈ outline.filter Landmark.isLoop :=
    List.mem_filter.mpr ⟨hmem, rfl⟩
  cases hfound : numberIn outline n with
  | none =>
    unfold numberIn at hfound
    have hnot := List.findIdx?_eq_none_iff.mp hfound _ hloop
    rw [h] at hnot
    simp at hnot
  | some k =>
    refine ⟨k, numberIn_lt hfound, rfl, ?_⟩
    obtain ⟨hk, hfound, -⟩ := List.findIdx?_eq_some_iff_getElem.mp hfound
    rw [h] at hfound
    rw [List.getElem?_eq_getElem hk]
    simpa using hfound

/-- The guard puts the texts with its number in for a loop. -/
theorem texts_of_number (guard : LoopGuard) (source : List Char) {outline : List Landmark} {k : Nat}
    {span body : Span} {isBlock : Bool} (seq : Nat)
    (h : (outline.filter Landmark.isLoop)[k]? = some (.loop span body isBlock)) :
    opening (seq + k) ∈ loopTexts guard source seq outline ∧
      (if isBlock then guard.check (seq + k) (Text.lineOf source span.start)
        else '\x7b' :: guard.check (seq + k) (Text.lineOf source span.start)) ∈
          loopTexts guard source seq outline := by
  induction outline generalizing seq k with
  | nil => exact nomatch h
  | cons landmark outline ih =>
    cases landmark with
    | labelled span' bodyStart => exact ih seq h
    | loop span' body' isBlock' =>
      rw [List.filter_cons_of_pos rfl] at h
      cases k with
      | zero =>
        cases h
        cases isBlock <;> simp [loopTexts]
      | succ k =>
        obtain ⟨hopening, hcheck⟩ := ih (seq + 1) h
        rw [show seq + (k + 1) = seq + 1 + k by omega, loopTexts]
        exact ⟨List.mem_append_right _ hopening, List.mem_append_right _ hcheck⟩

/-- The landmarks of a place are landmarks of the tree. -/
theorem landmark_mem_of_place {n : Node} : ∀ place ∈ n.places, ∀ l ∈ Landmark.ofNode place.node,
    l ∈ n.fold fun n inside => Landmark.ofNode n ++ inside.flatten := by
  induction n using Node.children_induction with
  | h n ih =>
    intro place hplace l hl
    rw [Node.fold_eq]
    rcases Node.place_cases hplace with rfl | ⟨c, hc, inner, hinner, hwithin⟩
    · exact List.mem_append_left _ hl
    · have hc := Node.mem_of_mem_namingParts hc
      have hl : l ∈ Landmark.ofNode inner.node := by
        rcases hwithin with rfl | rfl <;> exact hl
      exact List.mem_append_right _
        (List.mem_flatMap.mpr ⟨c, hc, ih c hc inner hinner l hl⟩)

/-- The landmarks of a script as the guard visits them. -/
def landmarks (program : Program) : List Landmark := outline (program.body ++ program.types)

theorem landmark_mem_of_mem_places {program : Program} {place : Place}
    (h : place ∈ program.places) : ∀ l ∈ Landmark.ofNode place.node, l ∈ landmarks program := by
  intro l hl
  obtain ⟨n, hn, hplace⟩ := List.mem_flatMap.mp h
  refine List.mem_mergeSort.mpr (List.mem_flatMap.mpr ⟨n, List.mem_append_left _ hn, ?_⟩)
  exact landmark_mem_of_place place hplace l hl

/-! ## References and checks -/

section

variable (program : Program) (around : List Node) (name : String)

/-- Whose variable a name means inside some nodes of a script. -/
def owner : Option Owner := ownerOf (scopesIn (fun _ => none) program.binds around) name

/-- Whose variable it means there once the script is guarded. -/
def guardedOwner : Option Owner :=
  ownerOf (scopesIn (numberIn (landmarks program)) program.binds around) name

end

/-- The block in which the check of a loop stands, if the body of the loop is one. -/
def checkBlock (n : Node) : List Node :=
  match n.form with
  | .whileLoop _ body | .doLoop body _ | .forLoop _ _ _ body | .forInLoop _ _ body
  | .forOfLoop _ _ _ body => [body].filter isBlock
  | _ => []

/-- The nodes around the check of the loop at a place. -/
def aroundCheck (place : Place) : List Node := checkBlock place.node ++ place.node :: place.around

theorem isBlock_of_mem_checkBlock {n : Node} : ∀ m ∈ checkBlock n, isBlock m = true := by
  unfold checkBlock
  split
  case h_6 => exact fun _ h => nomatch h
  all_goals exact fun _ h => (List.mem_filter.mp h).2

theorem mem_allNames_of_checkBlock {n : Node} :
    ∀ m ∈ checkBlock n, ∀ x ∈ Script.allNames m, x ∈ Script.allNames n := by
  intro m hm x hx
  refine Script.mem_allNames_of_part ?_ hx
  unfold checkBlock at hm
  split at hm
  case h_6 => exact nomatch hm
  all_goals
    next hf =>
      rw [Node.namingParts, hf, List.mem_singleton.mp (List.mem_filter.mp hm).1]
      simp [Script.Form.children, Script.Form.foldChildren, Node.fold_self]

theorem landmark_of_block {m : Node} (h : isBlock m = true) : Landmark.ofNode m = [] := by
  obtain ⟨span, form⟩ := m
  cases form
  case block => rfl
  all_goals exact absurd h Bool.false_ne_true

theorem name_mem_of_place {program : Program} {place : Place} {name : String}
    (h : place ∈ program.places) (hname : place.name? = some name) : name ∈ program.names := by
  refine Program.mem_names_of_place h place.node List.mem_cons_self name ?_
  refine Script.mem_allNames_of_own ?_
  unfold Place.name? at hname
  unfold Node.ownNames
  split at hname
  next hf =>
    cases hname
    rw [hf]
    exact List.mem_singleton_self _
  next => cases hname

theorem ne_bindingOf (name : String) (h : name.toList.head? ≠ some '_') (k : Nat) :
    name ≠ bindingOf k := by
  rintro rfl
  refine h ?_
  unfold bindingOf
  rw [String.toList_ofList, bindingName_eq]
  rfl

/-- The check of a loop reads a variable of the script exactly if the loop or its block binds the
name of the loop's variable, or the script binds one of the other two names for where the loop
stands. -/
theorem check_reads_iff (program : Program) (guard : LoopGuard) (place : Place) (line : Nat)
    {k : Nat} (hk : numberIn (landmarks program) place.node = some k) :
    (∃ name ∈ namesOf (guard.check k line),
        guardedOwner program (aroundCheck place) name = some .script) ↔
      (∃ n ∈ checkBlock place.node ++ [place.node], bindingOf k ∈ n.binds) ∨
        ∃ name ∈ ["Date", "Error"],
          name ∈ program.binds ∨ ∃ n ∈ aroundCheck place, name ∈ n.binds := by
  have hblock : ∀ n ∈ checkBlock place.node, numberIn (landmarks program) n = none := fun n hn =>
    numberIn_eq_none (landmark_of_block (isBlock_of_mem_checkBlock n hn))
  have hown := ownerOf_binding_eq_script_iff (numberIn (landmarks program)) program.binds hk hblock
    place.around
  have hdate := ownerOf_eq_script_iff (numberIn (landmarks program)) program.binds
    (ne_bindingOf "Date" (by decide)) (aroundCheck place)
  have herror := ownerOf_eq_script_iff (numberIn (landmarks program)) program.binds
    (ne_bindingOf "Error" (by decide)) (aroundCheck place)
  rw [namesOf_check]
  unfold guardedOwner
  simp only [List.mem_cons, List.not_mem_nil, or_false, exists_eq_or_imp, exists_eq_left]
  rw [hdate, herror, aroundCheck, hown]
  exact or_left_comm

/-- In a script that has none of the numbered names, every name keeps its meaning and every check
finds the variable of its loop. -/
theorem guardedOwner_of_not_mem {program : Program}
    (h : ∀ k < loopsIn (landmarks program), bindingOf k ∉ program.names) {place : Place}
    (hplace : place ∈ program.places) :
    (∀ name, place.name? = some name →
      guardedOwner program place.around name = owner program place.around name) ∧
    ∀ k, numberIn (landmarks program) place.node = some k →
      guardedOwner program (aroundCheck place) (bindingOf k) = some (.guard k) := by
  constructor
  · intro name hname
    refine ownerOf_eq_of_ne_guard _ _ fun k hk => ?_
    obtain ⟨rfl, -, loop, -, -, hloop, -⟩ := (ownerOf_eq_guard_iff _ _ _ _ _).mp hk
    exact h k (numberIn_lt hloop) (name_mem_of_place hplace hname)
  · intro k hk
    refine (ownerOf_eq_guard_iff _ _ _ _ _).mpr
      ⟨rfl, checkBlock place.node, place.node, place.around, rfl, hk, fun n hn hbinds => ?_⟩
    refine h k (numberIn_lt hk)
      (Program.mem_names_of_place hplace place.node List.mem_cons_self _ ?_)
    have hnames := n.mem_allNames_of_binds _ hbinds
    rcases List.mem_append.mp hn with hn | hn
    · exact mem_allNames_of_checkBlock n hn _ hnames
    · rwa [List.mem_singleton.mp hn] at hnames

/-- A name that neither the script nor the guard has for a variable of its own means, in a check,
one of the surroundings. -/
theorem guardedOwner_eq_none {program : Program} {place : Place} (hplace : place ∈ program.places)
    {name : String} (hname : name ∉ program.names) (hne : ∀ k, name ≠ bindingOf k) :
    guardedOwner program (aroundCheck place) name = none := by
  have hbinds : ∀ n ∈ aroundCheck place, name ∉ n.binds := by
    intro n hn hbinds
    have hnames := n.mem_allNames_of_binds _ hbinds
    refine hname ?_
    rcases List.mem_append.mp hn with hn | hn
    · exact Program.mem_names_of_place hplace place.node List.mem_cons_self _
        (mem_allNames_of_checkBlock n hn _ hnames)
    · exact Program.mem_names_of_place hplace n hn _ hnames
  cases howner : guardedOwner program (aroundCheck place) name with
  | none => rfl
  | some maker =>
    cases maker with
    | script =>
      rcases (ownerOf_eq_script_iff _ _ hne _).mp howner with htop | ⟨n, hn, h⟩
      · exact absurd (program.mem_names_of_binds _ htop) hname
      · exact absurd h (hbinds n hn)
    | guard k => exact absurd ((ownerOf_eq_guard_iff _ _ _ _ _).mp howner).1 (hne k)

end LivePreview.Guard

namespace LivePreview

open Guard

/-- **The names of the guard.** What the guard puts into a script declares a numbered variable for
each loop, no two loops the same, and what is put in for a loop uses its variable and two names of
the surroundings. The guard does not look at the names of the script. So a name of the script means
the variable of a loop exactly if it has its name and stands in the loop with nothing in between
that binds it; else it means what it meant. And the check of a loop reads a variable of the script
exactly if the loop itself or its block binds the name of the loop's variable, or one of the other
two is bound around. In a script that has none of the numbered names no reference is caught, and
every check finds the variable of its loop; and what the script does not name at all is found in the
surroundings. -/
theorem guard_names_in_scope (guard : LoopGuard) (source : List Char) :
    match Script.parse source with
    | .error report => instrument guard source = .error (.ofReport source report)
    | .ok program =>
      let number := numberIn (landmarks program)
      let loops := loopsIn (landmarks program)
      ∃ out texts, instrument guard source = .ok out ∧ Weaves texts source out ∧
        (texts.flatMap declaredBy).Perm ((List.range loops).map bindingOf) ∧
        (texts.flatMap declaredBy).Nodup ∧
        (∀ text ∈ texts, ∃ k < loops, ∀ name ∈ namesOf text,
          name ∈ [bindingOf k, "Date", "Error"]) ∧
        (∀ place ∈ program.places, ∀ name, place.name? = some name →
          (∀ k, guardedOwner program place.around name = some (.guard k) ↔
            name = bindingOf k ∧ Exposes number k name place.around) ∧
          ((∀ k, guardedOwner program place.around name ≠ some (.guard k)) →
            guardedOwner program place.around name = owner program place.around name)) ∧
        (∀ place ∈ program.places, ∀ span body isBlock,
          Landmark.ofNode place.node = [.loop span body isBlock] →
          ∃ k < loops, number place.node = some k ∧ opening k ∈ texts ∧
            let check := guard.check k (Text.lineOf source span.start)
            (if isBlock then check else '\x7b' :: check) ∈ texts ∧
            ((∃ name ∈ namesOf check,
                guardedOwner program (aroundCheck place) name = some .script) ↔
              (∃ n ∈ checkBlock place.node ++ [place.node], bindingOf k ∈ n.binds) ∨
                ∃ name ∈ ["Date", "Error"],
                  name ∈ program.binds ∨ ∃ n ∈ aroundCheck place, name ∈ n.binds)) ∧
        ((∀ k < loops, bindingOf k ∉ program.names) → ∀ place ∈ program.places,
          (∀ name, place.name? = some name →
            guardedOwner program place.around name = owner program place.around name) ∧
          ∀ k, number place.node = some k →
            guardedOwner program (aroundCheck place) (bindingOf k) = some (.guard k)) ∧
        ∀ place ∈ program.places, ∀ name ∈ ["Date", "Error"], name ∉ program.names →
          guardedOwner program (aroundCheck place) name = none := by
  cases hparse : Script.parse source with
  | error report =>
    delta instrument
    simp only [hparse]
  | ok program =>
    have hout : instrument guard source = .ok (guard.instrument source (landmarks program)) := by
      delta instrument
      simp only [hparse, landmarks]
    obtain ⟨texts, hperm, hweaves⟩ := Guard.instrument_weaves guard source (landmarks program)
    have hdeclared := hperm.flatMap_right declaredBy
    rw [Guard.declaredBy_loopTexts, ← List.range_eq_range'] at hdeclared
    have hnodup : ((List.range (loopsIn (landmarks program))).map bindingOf).Nodup :=
      List.pairwise_map.mpr (List.nodup_range.imp fun hne he => hne (Guard.bindingOf_inj he))
    refine ⟨_, texts, hout, hweaves, hdeclared, hdeclared.nodup_iff.mpr hnodup, ?_, ?_, ?_,
      fun h place => guardedOwner_of_not_mem h, ?_⟩
    · intro text ht
      have hown := Guard.namesOf_mem_loopTexts guard source 0 (landmarks program) text
        (hperm.mem_iff.mp ht)
      simpa only [Nat.zero_add] using hown
    · exact fun place _ name _ =>
        ⟨ownerOf_eq_guard_iff _ _ place.around name, ownerOf_eq_of_ne_guard _ _⟩
    · intro place hplace span body isBlock hloop
      have hmem := landmark_mem_of_mem_places hplace _ (hloop ▸ List.mem_singleton_self _)
      obtain ⟨k, hk, hnumber, hfound⟩ := exists_numberIn hloop hmem
      obtain ⟨hopening, hcheck⟩ := texts_of_number guard source 0 hfound
      rw [Nat.zero_add] at hopening hcheck
      exact ⟨k, hk, hnumber, hperm.mem_iff.mpr hopening, hperm.mem_iff.mpr hcheck,
        check_reads_iff program guard place _ hnumber⟩
    · intro place hplace name hname hnot
      refine guardedOwner_eq_none hplace hnot (ne_bindingOf name ?_)
      rcases List.mem_cons.mp hname with rfl | hname
      · decide
      · rw [List.mem_singleton.mp hname]
        decide

/-! ## Scripts that use the names -/

/-- A script that counts down in the variable of the guard. -/
def countdown : List Char :=
  "let __loopGuard0 = 3;\nwhile (__loopGuard0 > 0) \x7b __loopGuard0--; \x7d".toList

/-- The loop counts in the variable of the guard, which holds the time. -/
def countdownGuarded : List Char :=
  "let __loopGuard0 = 3;\n\x7blet __loopGuard0 = Date.now();while (__loopGuard0 > 0) \x7b".toList ++
    "if (Date.now() - __loopGuard0 > 100) \x7b throw new Error(\"Infinite loop ".toList ++
    "detected on line 2\"); \x7d __loopGuard0--; \x7d\x7d".toList

/-- A script that calls a number what the guard calls the clock. -/
def dated : List Char := "let Date = 0;\nwhile (Date < 3) \x7b Date++; \x7d".toList

/-- The guard asks the number for the time. -/
def datedGuarded : List Char :=
  "let Date = 0;\n\x7blet __loopGuard0 = Date.now();while (Date < 3) \x7b".toList ++
    "if (Date.now() - __loopGuard0 > 100) \x7b throw new Error(\"Infinite loop ".toList ++
    "detected on line 2\"); \x7d Date++; \x7d\x7d".toList

/-- A script has a variable of a name, and somewhere the name means that of a loop instead once the
loops of an outline are guarded. -/
def isCaught (name : String) (k : Nat) (outline : List Landmark) (program : Script.Program) :
    Bool :=
  name ∈ program.names ∧
    ∃ place ∈ program.places, place.name? = some name ∧
      owner program place.around name = some .script ∧
      ownerOf (scopesIn (numberIn outline) program.binds place.around) name = some (.guard k)

/-- In the check of a loop of an outline a name means a variable of the script. -/
def isRead (name : String) (k : Nat) (outline : List Landmark) (program : Script.Program) : Bool :=
  ∃ place ∈ program.places, numberIn outline place.node = some k ∧
    ownerOf (scopesIn (numberIn outline) program.binds (aroundCheck place)) name = some .script

/-- What the guard puts into a script with one loop that has a block for its body, and what a test
of the script tells. -/
theorem loop_weaves (guard : LoopGuard) {source : List Char} {span body : Script.Span}
    {test : List Landmark → Script.Program → Bool}
    (hl : landmarksOf source = [.loop span body true])
    (hbody : span.start < body.start + 1) (hstop : body.start + 1 < span.stop)
    (htest : (Script.parse source).toOption.any (test [.loop span body true]) = true) :
    ∃ program, Script.parse source = .ok program ∧ test (landmarks program) program = true ∧
      instrument guard source = .ok (guardLoop guard source span body) ∧
      Weaves [opening 0, guard.check 0 (Text.lineOf source span.start), ['\x7d']] source
        (guardLoop guard source span body) := by
  obtain ⟨program, hparse, houtline, hout⟩ := instrument_eq_guardLoop guard hl hbody hstop
  rw [hparse] at htest
  have hweaves := Guard.emit_weaves 0 source
    [⟨span.start, .open, 0, 0, opening 0⟩,
      ⟨body.start + 1, .open, 0, 1, guard.check 0 (Text.lineOf source span.start)⟩,
      ⟨span.stop, .close, 0, 1, ['\x7d']⟩]
  refine ⟨program, hparse, ?_, hout, hweaves⟩
  unfold landmarks
  rw [houtline]
  exact htest

/-- The guard takes names that scripts use. In one script it declares a variable of the script anew,
so that the loop counts in that and is aborted after some hundred rounds however little time has
passed; in another its check reads a variable of the script. -/
theorem guard_takes_names :
    (∃ program, Script.parse countdown = .ok program ∧
      instrument (.ofMilliseconds 100) countdown = .ok countdownGuarded ∧
      Weaves [opening 0, LoopGuard.check (.ofMilliseconds 100) 0 2, ['\x7d']] countdown
        countdownGuarded ∧
      "__loopGuard0" ∈ declaredBy (opening 0) ∧ "__loopGuard0" ∈ program.names ∧
      ∃ place ∈ program.places, place.name? = some "__loopGuard0" ∧
        owner program place.around "__loopGuard0" = some .script ∧
        guardedOwner program place.around "__loopGuard0" = some (.guard 0)) ∧
    ∃ program, Script.parse dated = .ok program ∧
      instrument (.ofMilliseconds 100) dated = .ok datedGuarded ∧
      Weaves [opening 0, LoopGuard.check (.ofMilliseconds 100) 0 2, ['\x7d']] dated datedGuarded ∧
      "Date" ∈ namesOf (LoopGuard.check (.ofMilliseconds 100) 0 2) ∧
      ∃ place ∈ program.places, numberIn (landmarks program) place.node = some 0 ∧
        guardedOwner program (aroundCheck place) "Date" = some .script := by
  constructor
  · have hl : landmarksOf countdown = [.loop ⟨22, 66⟩ ⟨47, 66⟩ true] := by decide +kernel
    have hguarded : guardLoop (.ofMilliseconds 100) countdown ⟨22, 66⟩ ⟨47, 66⟩ =
        countdownGuarded := by
      decide +kernel
    have hcaught : (Script.parse countdown).toOption.any
        (isCaught "__loopGuard0" 0 [.loop ⟨22, 66⟩ ⟨47, 66⟩ true]) := by
      decide +kernel
    obtain ⟨program, hparse, hholds, hout, hweaves⟩ :=
      loop_weaves (.ofMilliseconds 100) hl (by decide) (by decide) hcaught
    rw [hguarded] at hout hweaves
    refine ⟨program, hparse, hout, hweaves, ?_, of_decide_eq_true hholds⟩
    rw [Guard.declaredBy_opening]
    exact List.mem_singleton_self _
  · have hl : landmarksOf dated = [.loop ⟨14, 42⟩ ⟨31, 42⟩ true] := by decide +kernel
    have hguarded : guardLoop (.ofMilliseconds 100) dated ⟨14, 42⟩ ⟨31, 42⟩ = datedGuarded := by
      decide +kernel
    have hread : (Script.parse dated).toOption.any
        (isRead "Date" 0 [.loop ⟨14, 42⟩ ⟨31, 42⟩ true]) := by
      decide +kernel
    obtain ⟨program, hparse, hholds, hout, hweaves⟩ :=
      loop_weaves (.ofMilliseconds 100) hl (by decide) (by decide) hread
    rw [hguarded] at hout hweaves
    refine ⟨program, hparse, hout, hweaves, ?_, of_decide_eq_true hholds⟩
    rw [Guard.namesOf_check]
    exact List.mem_cons_self

end LivePreview
