import LivePreview.Preview.Surface
import LivePreview.Text.Numeral

/-!
# A surface in memory

It keeps the artifacts that are not taken back, and a list of what was asked of it. It can be told
to fail.
-/

namespace LivePreview.Surface

open Preview (Artifact SurfaceError Surface)

/-- What a surface was asked for, and did. -/
inductive Event where
  | create (id : Nat) (document : String)
  | display (id : Nat)
  | release (id : Nat)
deriving DecidableEq, Repr

/-- What fails on a surface. -/
inductive Fault where
  | create (error : SurfaceError)
  /-- The error may tell the location of what cannot be shown. -/
  | display (error : String → SurfaceError)

/-- Artifacts in memory. -/
structure Memory where
  /-- Artifacts made so far. -/
  made : Nat
  /-- The numbers of those not taken back, in the order they were made. -/
  live : List Nat
  /-- What was done, latest last. -/
  events : List Event
  fault : Option Fault

namespace Memory

/-- Nothing was asked for yet. -/
def empty : Memory := ⟨0, [], [], none⟩

/-- The location of an artifact. -/
def location (id : Nat) : String := "mem:" ++ String.ofList (Text.decimal id)

/-- Makes an artifact. -/
def create (document : String) (s : Memory) : Except SurfaceError Artifact × Memory :=
  match s.fault with
  | some (.create e) => (.error e, s)
  | _ =>
    let id := s.made + 1
    (.ok ⟨id, location id⟩,
      { s with made := id, live := s.live ++ [id], events := s.events ++ [.create id document] })

/-- Shows an artifact. -/
def display (a : Artifact) (s : Memory) : Except SurfaceError Unit × Memory :=
  match s.fault with
  | some (.display e) => (.error (e a.location), s)
  | _ => (.ok (), { s with events := s.events ++ [.display a.id] })

/-- Takes an artifact back. -/
def release (a : Artifact) (s : Memory) : Memory :=
  { s with live := s.live.filter (· != a.id), events := s.events ++ [.release a.id] }

variable {m : Type → Type} [Monad m]

/-- The surface that keeps artifacts in memory. -/
def surface : Surface (StateT Memory m) where
  create document := modifyGet (create document)
  display a := modifyGet (display a)
  release a := modify (release a)

end Memory

end LivePreview.Surface
