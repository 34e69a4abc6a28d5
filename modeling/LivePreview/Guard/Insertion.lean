import LivePreview.Text.Bytes

/-!
# Insertions

Text put into a source at byte offsets. At one offset what closes comes before what opens, inner
loops close before outer ones and open after them, and `part` orders what one loop puts there.

1. `Insertion.le` is this order; insertions that it does not tell apart keep their order.
2. `splice` puts the insertions into the source, in this order.
-/

namespace LivePreview.Guard

/-- Whether an insertion closes or opens something. -/
inductive Edge where
  | close
  | open
deriving DecidableEq, Repr

/-- A text to be put in at a byte offset, for the loop of number `seq`. -/
structure Insertion where
  offset : Nat
  edge : Edge
  seq : Int
  part : Nat
  text : List Char
deriving DecidableEq, Repr

namespace Insertion

/-- The order's number of a loop: outer loops open first and close last. -/
def rank (i : Insertion) : Int :=
  match i.edge with
  | .close => -i.seq
  | .open => i.seq

/-- The order of two insertions. -/
def le (a b : Insertion) : Bool :=
  if a.offset != b.offset then a.offset < b.offset
  else if a.edge != b.edge then a.edge == .close
  else if a.rank != b.rank then a.rank < b.rank
  else a.part ≤ b.part

end Insertion

/-- The source from byte `at0` on with sorted insertions put in. -/
def emit : Nat → List Char → List Insertion → List Char
  | _, cs, [] => cs
  | at0, cs, i :: is =>
    Text.takeBytes (i.offset - at0) cs ++ i.text ++
      emit i.offset (Text.dropBytes (i.offset - at0) cs) is

/-- The source with insertions put in. -/
def splice (source : List Char) (insertions : List Insertion) : List Char :=
  emit 0 source (insertions.mergeSort Insertion.le)

end LivePreview.Guard
