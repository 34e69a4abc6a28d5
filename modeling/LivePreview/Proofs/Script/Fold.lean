import LivePreview.Script.Fold

/-!
# Folds and children

1. The children of a form are its fold that keeps the nodes (`Form.children`). Every fold gives a
   node the results of its children (`Node.fold_eq`).
2. What holds of a node whenever it holds of its children holds of every node
   (`Node.children_induction`). Folds are compared with each other by it.
-/

namespace LivePreview.Script

/-- Folding with the nodes themselves as results changes nothing. -/
theorem Node.fold_self : Node.fold (fun n _ => n) = id := by
  funext n
  cases n with
  | mk span form => rw [Node.fold, id]

/-- The children of a form, in the order of the source. -/
def Form.children (form : Form) : List Node := form.foldChildren fun n _ => n

/-! ## Folds -/

section

variable {β : Type} (f : Node → List β → β)

theorem foldList_eq_map (ns : List Node) : foldList f ns = ns.map (Node.fold f) := by
  induction ns with
  | nil => rw [foldList, List.map_nil]
  | cons n ns ih => rw [foldList, ih, List.map_cons]

theorem foldOption_eq_map (n : Option Node) : foldOption f n = n.toList.map (Node.fold f) := by
  cases n <;> rw [foldOption] <;> rfl

/-- The nodes themselves, one behind the other. -/
theorem foldList_self (ns : List Node) : foldList (fun n _ => n) ns = ns := by
  rw [foldList_eq_map, Node.fold_self, List.map_id]

/-- The node itself, which may be missing. -/
theorem foldOption_self (n : Option Node) : foldOption (fun n _ => n) n = n.toList := by
  rw [foldOption_eq_map, Node.fold_self, List.map_id]

/-- The results of children are the children's results. -/
theorem Form.foldChildren_eq_map (form : Form) :
    form.foldChildren f = form.children.map (Node.fold f) := by
  unfold Form.children
  cases form with
  | ambientBlock name body =>
    cases body <;> simp only [Form.foldChildren, foldList_eq_map, Node.fold_self, List.map_id,
      List.map_nil]
  | _ =>
    simp only [Form.foldChildren, foldList_eq_map, foldOption_eq_map, Node.fold_self, List.map_id,
      id_eq, List.map_append, List.map_cons, List.map_nil]

/-- A fold gives a node the results of its children. -/
theorem Node.fold_eq (n : Node) : n.fold f = f n (n.form.children.map (Node.fold f)) := by
  cases n with
  | mk span form =>
    rw [Node.fold, Form.foldChildren_eq_map]
    rfl

end

/-! ## Induction -/

/-- What holds of a node whenever it holds of its children holds of every node. -/
theorem Node.children_induction {P : Node → Prop}
    (h : ∀ n, (∀ c ∈ n.form.children, P c) → P n) (n : Node) : P n := by
  -- of a form it is said of its children; of what may be missing, of what is there
  apply @Node.rec P (fun form => ∀ c ∈ form.children, P c) (fun ns => ∀ c ∈ ns, P c)
    (fun n => ∀ c ∈ n.toList, P c) (fun ns => ∀ c ∈ ns.getD [], P c)
  case mk => exact fun span form ih => h (.mk span form) ih
  case ambientBlock =>
    intro name body ih
    cases body with
    | none => exact fun c hc => nomatch hc
    | some ns => simpa only [Form.children, Form.foldChildren, foldList_eq_map, Node.fold_self,
        List.map_id, Option.getD_some] using ih
  all_goals
    intros
    simp only [Form.children, Form.foldChildren, foldList_eq_map, foldOption_eq_map,
      Node.fold_self, List.map_id, id_eq] at *
    grind

end LivePreview.Script
