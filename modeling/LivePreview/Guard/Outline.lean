import LivePreview.Script.Fold

/-!
# The outline of a script

What the loop guard sees of a script: its loops and labels, in the order of the source.
-/

namespace LivePreview.Guard

open Script (Span Node)

/-- A part of a script that matters to the loop guard. -/
inductive Landmark where
  /-- A loop, its body, and whether the body is a block. -/
  | loop (span body : Span) (isBlock : Bool)
  /-- A labelled statement and the start of what is labelled. -/
  | labelled (span : Span) (bodyStart : Nat)
deriving DecidableEq, Repr

/-- Where a landmark starts. -/
def Landmark.start : Landmark → Nat
  | loop span .. | labelled span _ => span.start

/-- A node that is a block. -/
def isBlock (n : Node) : Bool :=
  match n.form with
  | .block _ => true
  | _ => false

/-- The landmark that a node is. -/
def Landmark.ofNode (n : Node) : List Landmark :=
  match n.form with
  | .whileLoop _ body | .doLoop body _ | .forLoop _ _ _ body | .forInLoop _ _ body
  | .forOfLoop _ _ _ body => [.loop n.span body.span (isBlock body)]
  | .labelled _ body => [.labelled n.span body.start]
  | _ => []

/-- The landmarks of nodes, in the order of the source. No two start at one place. -/
def outline (ns : List Node) : List Landmark :=
  let found := ns.flatMap fun n => n.fold fun n inside => Landmark.ofNode n ++ inside.flatten
  found.mergeSort fun a b => a.start ≤ b.start

end LivePreview.Guard
