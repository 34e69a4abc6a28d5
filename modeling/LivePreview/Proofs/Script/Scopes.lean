import LivePreview.Proofs.Script.Fold
import LivePreview.Script.Names

/-!
# Places in a script and the variables that hold there

1. A tree names what it binds (`Node.mem_allNames_of_binds`), and so does a script
   (`Program.mem_names_of_binds`): a name that occurs nowhere in a script is bound nowhere in it.
2. A place is a node with the nodes around it. What occurs there occurs in the whole tree
   (`Node.mem_allNames_of_place`).
-/

namespace LivePreview.Script

/-! ## The names of a tree -/

theorem Node.namingParts_map {β γ : Type} (f : β → γ) (n : Node) (inside : List β) :
    n.namingParts (inside.map f) = (n.namingParts inside).map f := by
  unfold Node.namingParts
  split <;> simp only [List.map_drop, List.map_take, List.map_append, List.map_nil]

theorem Node.mem_of_mem_namingParts {β : Type} {n : Node} {inside : List β} {part : β}
    (h : part ∈ n.namingParts inside) : part ∈ inside := by
  unfold Node.namingParts at h
  split at h
  · exact List.mem_of_mem_drop h
  · exact (List.mem_append.mp h).elim List.mem_of_mem_take List.mem_of_mem_drop
  · exact (List.mem_append.mp h).elim List.mem_of_mem_take List.mem_of_mem_drop
  · exact nomatch h
  · exact h

/-- A tree has the names of its root and those of the parts that name something. -/
theorem allNames_eq (n : Node) :
    allNames n = n.ownNames ++ (n.namingParts n.form.children).flatMap allNames := by
  have hfold : allNames n = _ := Node.fold_eq _ n
  rw [hfold, Node.namingParts_map]
  rfl

theorem mem_allNames_of_own {n : Node} {x : String} (hx : x ∈ n.ownNames) : x ∈ allNames n := by
  rw [allNames_eq]
  exact List.mem_append_left _ hx

theorem mem_allNames_of_part {n c : Node} {x : String} (hc : c ∈ n.namingParts n.form.children)
    (hx : x ∈ allNames c) : x ∈ allNames n := by
  rw [allNames_eq]
  exact List.mem_append_right _ (List.mem_flatMap.mpr ⟨c, hc, hx⟩)

/-- A fold that takes names from a node and from the parts of it that name something collects names
of the tree. -/
theorem mem_allNames_of_fold {β : Type} {f : Node → List β → β} (names : β → List String)
    (h : ∀ n inside, ∀ x ∈ names (f n inside),
      x ∈ allNames n ∨ ∃ part ∈ n.namingParts inside, x ∈ names part) (n : Node) :
    ∀ x ∈ names (n.fold f), x ∈ allNames n := by
  induction n using Node.children_induction with
  | h n ih =>
    intro x hx
    rw [Node.fold_eq] at hx
    rcases h n _ x hx with hown | ⟨part, hpart, hx⟩
    · exact hown
    · rw [Node.namingParts_map, List.mem_map] at hpart
      obtain ⟨c, hc, rfl⟩ := hpart
      exact mem_allNames_of_part hc (ih c (Node.mem_of_mem_namingParts hc) x hx)

/-! ## What is bound is named -/

/-- The names that a pattern binds are names of it. -/
theorem mem_allNames_of_boundNames (n : Node) : ∀ x ∈ boundNames n, x ∈ allNames n := by
  refine mem_allNames_of_fold id (fun n inside x hx => ?_) n
  have hparts {parts : List (List String)} (hsub : parts ⊆ n.namingParts inside)
      (hx : x ∈ parts.flatten) :
      x ∈ allNames n ∨ ∃ part ∈ n.namingParts inside, x ∈ part :=
    have ⟨part, hpart, hx⟩ := List.mem_flatten.mp hx
    .inr ⟨part, hsub hpart, hx⟩
  rw [id] at hx
  split at hx
  next hf => exact .inl (mem_allNames_of_own (by rwa [Node.ownNames, hf]))
  next hf => exact hparts (by rw [Node.namingParts, hf]; exact List.Subset.refl _) hx
  next hf => exact hparts (by rw [Node.namingParts, hf]; exact List.take_subset _ _) hx
  next hf => exact hparts (by rw [Node.namingParts, hf]; exact List.drop_subset _ _) hx
  next hf => exact hparts (by rw [Node.namingParts, hf]; exact List.take_subset _ _) hx
  next computed _ hcomputed hf =>
    have hcomputed : computed = true := (Bool.not_eq_false computed).mp hcomputed
    exact hparts (by rw [Node.namingParts, hf, hcomputed]; exact List.Subset.refl _) hx
  next hf => exact hparts (by rw [Node.namingParts, hf]; exact List.Subset.refl _) hx
  next hf => exact hparts (by rw [Node.namingParts, hf]; exact List.Subset.refl _) hx
  next hf => exact hparts (by rw [Node.namingParts, hf]; exact List.Subset.refl _) hx
  next => exact nomatch hx

theorem mem_allNames_of_patterns {n : Node} {patterns : List Node} {x : String}
    (hpatterns : patterns ⊆ n.namingParts n.form.children) (hx : x ∈ patterns.flatMap boundNames) :
    x ∈ allNames n := by
  obtain ⟨pattern, hpattern, hx⟩ := List.mem_flatMap.mp hx
  exact mem_allNames_of_part (hpatterns hpattern) (mem_allNames_of_boundNames pattern x hx)

namespace Names

/-- The names that a stretch of a script binds around it. -/
def bound (names : Names) : List String := names.vars ++ names.lexical

theorem mem_bound_join {parts : List Names} {x : String} (h : x ∈ (join parts).bound) :
    ∃ part ∈ parts, x ∈ part.bound := by
  unfold join bound at h
  simp only [List.mem_append, List.mem_flatMap] at h
  unfold bound
  grind

/-- Of what a block binds, what `var` binds is seen around it. -/
theorem bound_closeBlock (names : Names) : names.closeBlock.bound = names.vars :=
  List.append_nil _

/-- What a node binds around it, it names itself, or one of the parts that name something binds it
around. -/
theorem mem_bound_ofNode {n : Node} {inside : List Names} {x : String}
    (hx : x ∈ (ofNode n inside).bound) :
    x ∈ allNames n ∨ ∃ part ∈ n.namingParts inside, x ∈ part.bound := by
  have hown (hx : x ∈ n.ownNames) :
      x ∈ allNames n ∨ ∃ part ∈ n.namingParts inside, x ∈ part.bound :=
    .inl (mem_allNames_of_own hx)
  have hparts {parts : List Names} (hp : n.namingParts inside = parts)
      (hx : x ∈ (join parts).bound) :
      x ∈ allNames n ∨ ∃ part ∈ n.namingParts inside, x ∈ part.bound :=
    .inr (hp ▸ mem_bound_join hx)
  have hvars {parts : List Names} (hp : n.namingParts inside = parts)
      (hx : x ∈ (join parts).vars) :
      x ∈ allNames n ∨ ∃ part ∈ n.namingParts inside, x ∈ part.bound :=
    hparts hp (List.mem_append_left _ hx)
  unfold ofNode at hx
  split at hx
  next => exact nomatch hx
  next hf => exact hparts (by rw [Node.namingParts, hf]) hx
  next hf => exact hparts (by rw [Node.namingParts, hf]) hx
  next hf => exact hparts (by rw [Node.namingParts, hf]) hx
  next isType specifiers source hf =>
    split at hx
    · exact nomatch hx
    next hsource =>
      cases source with
      | some source => exact absurd (Bool.or_true isType) hsource
      | none => exact hparts (by rw [Node.namingParts, hf]) hx
  next hf =>
    split at hx
    · exact nomatch hx
    · exact hparts (by rw [Node.namingParts, hf]) hx
  next hf =>
    split at hx
    · exact nomatch hx
    · rcases List.mem_append.mp hx with hx | hx
      · exact hvars (by rw [Node.namingParts, hf]) hx
      · exact hown (by rwa [Node.ownNames, hf])
  next hf =>
    dsimp only at hx
    split at hx
    · exact hown (by rwa [Node.ownNames, hf])
    · exact nomatch hx
  next => exact nomatch hx
  next => exact nomatch hx
  next hf =>
    dsimp only at hx
    split at hx
    · exact hown (by rwa [Node.ownNames, hf])
    · exact nomatch hx
  next hf => exact hvars (by rw [Node.namingParts, hf]) (bound_closeBlock _ ▸ hx)
  next hf => exact hparts (by rw [Node.namingParts, hf]) hx
  next hf => exact hvars (by rw [Node.namingParts, hf]) (bound_closeBlock _ ▸ hx)
  next hf => exact hvars (by rw [Node.namingParts, hf]) (bound_closeBlock _ ▸ hx)
  next hf => exact hvars (by rw [Node.namingParts, hf]) (bound_closeBlock _ ▸ hx)
  next hf =>
    -- the cases of a switch are a block, its subject stands in front of it
    obtain ⟨part, hpart, hx⟩ := mem_bound_join hx
    rw [Node.namingParts, hf]
    rcases List.mem_append.mp hpart with hpart | hpart
    · exact .inr ⟨part, List.mem_of_mem_take hpart, hx⟩
    · rw [List.mem_singleton.mp hpart, bound_closeBlock] at hx
      obtain ⟨part, hpart, hx⟩ := List.mem_flatMap.mp hx
      exact .inr ⟨part, List.mem_of_mem_drop hpart, List.mem_append_left _ hx⟩
  next => exact nomatch hx
  next => exact nomatch hx
  next hf => exact hparts (by rw [Node.namingParts, hf]) hx
  next binder items hf =>
    have hitems : items.flatMap boundNames ⊆ allNames n := by
      refine fun x hx => mem_allNames_of_patterns ?_ hx
      rw [Node.namingParts, hf, Form.children, Form.foldChildren, foldList_self]
      exact List.Subset.refl _
    have hx : x ∈ (join inside).bound ∨ x ∈ items.flatMap boundNames := by
      unfold bound at hx ⊢
      dsimp only at hx
      split at hx <;> grind
    rcases hx with hx | hx
    · exact hparts (by rw [Node.namingParts, hf]) hx
    · exact .inl (hitems hx)
  next hf =>
    rcases List.mem_append.mp hx with hx | hx
    · exact hvars (by rw [Node.namingParts, hf]) hx
    · exact hown (by rwa [Node.ownNames, hf])
  next hf => exact hown (by rwa [Node.ownNames, hf])
  next => exact hparts (by unfold Node.namingParts; split <;> first | rfl | (exfalso; grind)) hx

/-- The names that a node binds around it are names of it. -/
theorem mem_allNames_of_bound (n : Node) : ∀ x ∈ (Names.of n).bound, x ∈ allNames n :=
  mem_allNames_of_fold bound (fun _ _ _ => mem_bound_ofNode) n

end Names

/-- What stands right inside a node binds names of the node. -/
theorem mem_allNames_of_inside {n : Node} {cs : List Node} {x : String}
    (hcs : cs ⊆ n.namingParts n.form.children)
    (hx : x ∈ (Names.join (cs.map Names.of)).bound) : x ∈ allNames n := by
  obtain ⟨part, hpart, hx⟩ := Names.mem_bound_join hx
  obtain ⟨c, hc, rfl⟩ := List.mem_map.mp hpart
  exact mem_allNames_of_part (hcs hc) (Names.mem_allNames_of_bound c x hx)

namespace Node

theorem mem_allNames_of_memberName {n : Node} {x : String} (hx : x ∈ n.memberName) :
    x ∈ allNames n := by
  refine mem_allNames_of_own ?_
  obtain ⟨span, form⟩ := n
  cases form
  case enumMember => exact hx
  all_goals exact nomatch hx

/-- A node that does not only say that something exists elsewhere. -/
def isMade (n : Node) : Bool := n.declares.all fun d => d.2 != .ambient

/-- The variables that a node binds for what stands inside it. -/
def binds (n : Node) : List String :=
  let inside := Names.join ((n.form.children.filter isMade).map Names.of)
  match n.form with
  | .function _ _ name parameters _ => parameters.flatMap boundNames ++ textOf name
  | .arrow _ _ parameters _ | .parameterList parameters => parameters.flatMap boundNames
  | .classForm _ _ name _ _ => textOf name
  | .catchClause parameter _ => parameter.toList.flatMap boundNames
  | .functionBody _ | .staticBlock _ | .namespaceBlock .. => inside.bound
  | .block _ | .switchOn .. | .forLoop .. | .forInLoop .. | .forOfLoop .. => inside.lexical
  | .enumeration _ _ members => members.flatMap memberName
  | _ => []

/-- What a node binds, it names. -/
theorem mem_allNames_of_binds (n : Node) : ∀ x ∈ n.binds, x ∈ allNames n := by
  intro x hx
  obtain ⟨span, form⟩ := n
  have hpatterns {patterns : List Node} (hp : patterns ⊆ (mk span form).namingParts form.children)
      (h : x ∈ patterns.flatMap boundNames) : x ∈ allNames (mk span form) :=
    mem_allNames_of_patterns hp h
  have hinside (hparts : (mk span form).namingParts form.children = form.children)
      (h : x ∈ (Names.join ((form.children.filter isMade).map Names.of)).bound) :
      x ∈ allNames (mk span form) := by
    refine mem_allNames_of_inside ?_ h
    rw [form_mk, hparts]
    exact fun c hc => (List.mem_filter.mp hc).1
  unfold binds at hx
  cases form
  case function place traits name parameters body =>
    rcases List.mem_append.mp hx with hx | hx
    · refine hpatterns ?_ hx
      show parameters ⊆ foldList (fun n _ => n) parameters ++ foldOption (fun n _ => n) body
      rw [foldList_self]
      exact List.subset_append_left _ _
    · exact mem_allNames_of_own hx
  case arrow traits isParenthesized parameters body =>
    refine hpatterns ?_ hx
    show parameters ⊆ foldList (fun n _ => n) parameters ++ [body.fold fun n _ => n]
    rw [foldList_self]
    exact List.subset_append_left _ _
  case parameterList parameters =>
    refine hpatterns ?_ hx
    show parameters ⊆ foldList (fun n _ => n) parameters
    rw [foldList_self]
    exact List.Subset.refl _
  case catchClause parameter body =>
    refine hpatterns ?_ hx
    show parameter.toList ⊆ foldOption (fun n _ => n) parameter ++ [body.fold fun n _ => n]
    rw [foldOption_self]
    exact List.subset_append_left _ _
  case enumeration isConst name members =>
    obtain ⟨member, hmember, hx⟩ := List.mem_flatMap.mp hx
    refine mem_allNames_of_part ?_ (mem_allNames_of_memberName hx)
    show member ∈ foldList (fun n _ => n) members
    rwa [foldList_self]
  case classForm => exact mem_allNames_of_own hx
  case functionBody | staticBlock | namespaceBlock => exact hinside rfl hx
  case block | switchOn | forLoop | forInLoop | forOfLoop =>
    exact hinside rfl (List.mem_append_right _ hx)
  all_goals exact nomatch hx

end Node

/-! ## Places -/

/-- A node with the nodes around it, the innermost first. -/
structure Place where
  node : Node
  around : List Node

/-- The name that stands at a place. -/
def Place.name? (place : Place) : Option String :=
  match place.node.form with
  | .name text => some text
  | _ => none

/-- A place with one more node around it. -/
def Place.within (n : Node) (place : Place) : Place := { place with around := place.around ++ [n] }

namespace Node

/-- How many of the first children of a node stand in front of what it binds: the subject of a
switch, the decorators of a class. -/
def outerCount (n : Node) : Nat :=
  match n.form with
  | .switchOn .. => 1
  | .classForm _ decorators .. => decorators.length
  | _ => 0

/-- The places of a tree where something is used or bound. -/
def places (n : Node) : List Place :=
  n.fold fun n inside =>
    let parts := n.namingParts inside
    ⟨n, []⟩ :: ((parts.take n.outerCount).flatten ++
      (parts.drop n.outerCount).flatten.map (Place.within n))

/-- A place is that of the root, or one of a part that names something. -/
theorem place_cases {n : Node} {place : Place} (h : place ∈ n.places) :
    place = ⟨n, []⟩ ∨ ∃ c ∈ n.namingParts n.form.children, ∃ inner ∈ c.places,
      place = inner ∨ place = inner.within n := by
  have hfold : n.places = _ := fold_eq _ n
  simp only [hfold, namingParts_map, ← List.map_take, ← List.map_drop, List.mem_cons,
    List.mem_append, List.mem_map, List.mem_flatten] at h
  rcases h with rfl | ⟨_, ⟨c, hc, rfl⟩, hplace⟩ | ⟨inner, ⟨_, ⟨c, hc, rfl⟩, hinner⟩, rfl⟩
  · exact .inl rfl
  · exact .inr ⟨c, List.mem_of_mem_take hc, place, hplace, .inl rfl⟩
  · exact .inr ⟨c, List.mem_of_mem_drop hc, inner, hinner, .inr rfl⟩

/-- What occurs at a place, or around it, occurs in the tree. -/
theorem mem_allNames_of_place {n : Node} :
    ∀ place ∈ n.places, ∀ m ∈ place.node :: place.around, ∀ x ∈ allNames m, x ∈ allNames n := by
  induction n using children_induction with
  | h n ih =>
    intro place hplace m hm x hx
    rcases place_cases hplace with rfl | ⟨c, hc, inner, hinner, hwithin⟩
    · rwa [List.mem_singleton.mp hm] at hx
    have hm : m ∈ inner.node :: inner.around ∨ m = n := by
      rcases hwithin with rfl | rfl
      · exact .inl hm
      · rwa [← List.mem_singleton, ← List.mem_append]
    rcases hm with hm | rfl
    · exact mem_allNames_of_part hc (ih c (mem_of_mem_namingParts hc) inner hinner m hm x hx)
    · exact hx

end Node

/-! ## Whole scripts -/

theorem mem_names_of_imported {isType isItem : Bool} {default space : Option Node}
    {named : Option (List Node)} {phase : String} {source : Node} {word : Option String}
    {attributes : List Node} {span : Span} :
    ∀ d ∈ importedNames isType default space named,
      d.1 ∈ (Node.mk span (.importDeclaration isItem phase default space named source word
        attributes)).ownNames := by
  intro d hd
  unfold importedNames at hd
  change d.1 ∈ _ ++ List.flatMap _ _
  rcases List.mem_append.mp hd with hd | hd
  · obtain ⟨name, hname, rfl⟩ := List.mem_map.mp hd
    exact List.mem_append_left _ hname
  · obtain ⟨item, hitem, hd⟩ := List.mem_flatMap.mp hd
    refine List.mem_append_right _ (List.mem_flatMap.mpr ⟨item, hitem, ?_⟩)
    split at hd
    · rw [List.mem_singleton.mp hd]
      exact List.mem_singleton_self _
    · exact nomatch hd

theorem mem_allNames_of_child {n c : Node} {x : String}
    (hchildren : n.form.children = [c.fold fun n _ => n])
    (hparts : n.namingParts n.form.children = n.form.children) (hx : x ∈ allNames c) :
    x ∈ allNames n := by
  refine mem_allNames_of_part ?_ hx
  rw [hparts, hchildren, Node.fold_self]
  exact List.mem_singleton_self c

/-- What a statement declares, it names. -/
theorem Node.mem_allNames_of_declares (n : Node) : ∀ d ∈ n.declares, d.1 ∈ allNames n := by
  fun_induction Node.declares n
  case case1 span n ih => exact fun d hd => mem_allNames_of_child rfl rfl (ih d hd)
  case case2 span n ih => exact fun d hd => mem_allNames_of_child rfl rfl (ih d hd)
  case case3 span n ih =>
    intro d' hd'
    obtain ⟨d, hd, rfl⟩ := List.mem_map.mp hd'
    exact mem_allNames_of_child rfl rfl (ih d hd)
  case case4 => exact fun d hd => mem_allNames_of_own (mem_names_of_imported d hd)
  case case9 =>
    intro d hd
    obtain ⟨x, hx, rfl⟩ := List.mem_map.mp hd
    exact Names.mem_allNames_of_bound _ x hx
  all_goals
    intro d hd
    rw [List.mem_singleton.mp hd]
    exact mem_allNames_of_own (List.mem_singleton_self _)

namespace Program

/-- The names that a script uses or binds, as values or as types. -/
def names (program : Program) : List String := (program.body ++ program.types).flatMap allNames

/-- The variables that a script binds for all of it. What is only said to exist elsewhere is none of
them. -/
def binds (program : Program) : List String :=
  ((program.body.flatMap Node.declares).filter fun d =>
    d.2 == .value || d.2 == .imported).map Prod.fst

/-- The places of a script, apart from the types put to its values. -/
def places (program : Program) : List Place := program.body.flatMap Node.places

/-- What a script binds, it names. -/
theorem mem_names_of_binds (program : Program) : ∀ x ∈ program.binds, x ∈ program.names := by
  intro x hx
  obtain ⟨d, hd, rfl⟩ := List.mem_map.mp hx
  obtain ⟨n, hn, hd⟩ := List.mem_flatMap.mp (List.mem_filter.mp hd).1
  exact List.mem_flatMap.mpr ⟨n, List.mem_append_left _ hn, n.mem_allNames_of_declares d hd⟩

theorem mem_names_of_place {program : Program} {place : Place} (h : place ∈ program.places) :
    ∀ m ∈ place.node :: place.around, ∀ x ∈ allNames m, x ∈ program.names := by
  intro m hm x hx
  obtain ⟨n, hn, hplace⟩ := List.mem_flatMap.mp h
  exact List.mem_flatMap.mpr ⟨n, List.mem_append_left _ hn,
    Node.mem_allNames_of_place place hplace m hm x hx⟩

end Program

end LivePreview.Script
