import LivePreview.Script.Parser.Basic

/-!
# Targets of assignments

An expression that turns out to stand in front of `=`, `in` or `of` is read again as what is
assigned to: arrays and objects become patterns, names and members stay, all else is refused.
-/

namespace LivePreview.Script

/-- Why an expression cannot be assigned to, and where that shows. -/
structure TargetError where
  diagnostic : Diagnostic
  place : Nat

/-- What the reading of an expression as a target finds. -/
structure Target where
  node : Node
  /-- Starts of shorthand initializers that belong to the target. -/
  settled : List Nat
  /-- Reports that do not end the reading. -/
  reports : List Report

namespace Target

/-- A target with nothing to tell of it. -/
def plain (node : Node) : Target := ⟨node, [], []⟩

/-- A node made of targets. -/
def gather (node : Node) (parts : List Target) : Target :=
  ⟨node, parts.flatMap settled, parts.flatMap reports⟩

/-- A target in another form. -/
def map (f : Node → Node) (t : Target) : Target := { t with node := f t.node }

end Target

/-- An expression without parentheses and types around it. -/
def Node.bare : Node → Node
  | .mk _ (.parenthesized inner) | .mk _ (.typed inner) | .mk _ (.instantiated inner _) =>
    inner.bare
  | n => n

/-- A name or a member that no optional chain leads to. -/
def Node.isReference (n : Node) : Bool :=
  match n.form with
  | .name _ | .member _ _ false | .privateMember _ _ false | .index _ _ false => true
  | _ => false

/-- Whether a single value can be assigned to a node. -/
def Node.simpleTarget? : Node → Except TargetError Unit
  | .mk span form => match form with
    | .parenthesized inner =>
      match inner.form with
      | .array _ | .object _ => .error ⟨.invalidAssignmentTarget, span.start⟩
      | _ => inner.simpleTarget?
    | .instantiated .. => .error ⟨.instantiatedTarget, span.start⟩
    | .typed inner =>
      if inner.bare.isReference then .ok () else .error ⟨.invalidAssignmentTarget, span.start⟩
    | form =>
      if (Node.mk span form).isReference then .ok ()
      else .error ⟨.invalidAssignmentTarget, span.start⟩

mutual

/-- A node as the target of an assignment; `commas` are the starts of arrays and objects that end
in a comma, with its place. -/
def Node.toTarget (commas : List (Nat × Nat)) : Node → Except TargetError Target
  | .mk span form => match form with
    | .arrayPattern .. | .objectPattern .. => .ok (.plain (.mk span form))
    | .array elements => do
      let targets ← elementTargets commas elements
      return finish span commas targets (.arrayPattern false)
    | .object members => do
      if let some (.mk _ (.spread inner)) := members.getLast? then
        if inner.simpleTarget?.toOption.isNone then throw ⟨.targetRest, inner.start⟩
      let targets ← elementTargets commas members
      return finish span commas targets (.objectPattern false)
    | form => do
      (Node.mk span form).simpleTarget?
      return .plain (.mk span form)
where
  /-- A pattern of targets, the last of which may gather what is left. -/
  finish (span : Span) (commas : List (Nat × Nat)) (targets : List Target)
      (make : List Node → Option Node → Form) : Target :=
    let nodes := targets.map Target.node
    match nodes.getLast? with
    | some (.mk s (.rest t)) =>
      let whole := Target.gather (.mk span (make nodes.dropLast (some (.mk s (.rest t))))) targets
      let behind := (commas.lookup span.start).map (Report.pointing .commaBehindRest)
      { whole with reports := whole.reports ++ behind.toList }
    | _ => .gather (.mk span (make nodes none)) targets

/-- Items of an array or members of an object as targets. Dots are for the last one only. -/
def elementTargets (commas : List (Nat × Nat)) : List Node → Except TargetError (List Target)
  | [] => .ok []
  | n :: ns => do
    let first ← elementTarget commas ns.isEmpty n
    return first :: (← elementTargets commas ns)

/-- An item of an array or a member of an object as a target. -/
def elementTarget (commas : List (Nat × Nat)) (isLast : Bool) : Node → Except TargetError Target
  | .mk span form => match form with
    | .hole => .ok (.plain (.mk span .hole))
    | .spread inner => do
      if !isLast then throw ⟨.targetSpreadNotLast, span.start⟩
      if let .assign .. := inner.form then throw ⟨.targetRest, inner.start⟩
      return (← inner.toTarget commas).map fun n => .mk span (.rest n)
    | .property key value computed true =>
      let isDefault := match value.form with | .withDefault .. => true | _ => false
      .ok ⟨.mk span (.property key value computed true), if isDefault then [span.start] else [], []⟩
    | .property key value computed false =>
      return (← elementTarget commas false value).map fun n =>
        .mk span (.property key n computed false)
    | .assign operator target value =>
      let whole := Target.plain (.mk span (.withDefault target value))
      if operator == "=" then .ok whole
      else .ok { whole with reports := [.pointing .targetDefaultOperator span.start] }
    | form => (Node.mk span form).toTarget commas

end

end LivePreview.Script

namespace LivePreview.Script.Parser

/-- The target that an expression is, with the shorthand initializers in it settled. -/
def targetOf (n : Node) : P Node := do
  match n.toTarget (← get).lastCommas with
  | .ok target =>
    modify fun s => { s with
      shorthands := s.shorthands.filter fun o => !target.settled.contains o
      reports := target.reports.reverse ++ s.reports }
    return target.node
  | .error e => failAt e.diagnostic e.place

/-- Refuses what no single value can be assigned to. -/
def checkSimpleTarget (n : Node) : P Unit := do
  match n.simpleTarget? with
  | .ok () => pure ()
  | .error e => failAt e.diagnostic e.place

end LivePreview.Script.Parser
