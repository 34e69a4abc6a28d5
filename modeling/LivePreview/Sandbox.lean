import LivePreview.Console.Journal
import LivePreview.Files
import LivePreview.Guard.Registry

/-!
# Runs in memory

A sandbox stands in for what is outside the program: files, the journal and the guards that were
asked for. What runs in it is a function of it.
-/

namespace LivePreview

open Console (Entry Journal)
open Files (FileError Tree)
open Guard (Guards Registry)

/-- What is outside the program. -/
structure Sandbox where
  tree : Tree
  /-- What was said, latest last. -/
  said : List Entry
  registry : Registry

namespace Sandbox

/-- No file, and nothing said. -/
def empty : Sandbox := ⟨.empty, [], .empty⟩

/-- The sandbox with one more thing said. -/
def say (e : Entry) (s : Sandbox) : Sandbox := { s with said := s.said ++ [e] }

/-- A change of the files; they stay as they are if it fails. -/
def change (f : Tree → Except FileError Tree) (s : Sandbox) : Except FileError Unit × Sandbox :=
  match f s.tree with
  | .ok tree => (.ok (), { s with tree := tree })
  | .error e => (.error e, s)

/-- The guard under the milliseconds of a budget, with a note if it is made. -/
def guard (budget : Duration) (s : Sandbox) : Guard.LoopGuard × Sandbox :=
  let known := (s.registry.find? budget).isSome
  let (g, registry) := s.registry.register budget
  let s := { s with registry := registry }
  (g, if known then s else s.say (.note ⟨Guard.topic, g.madeText, true⟩))

instance : Journal (StateM Sandbox) where
  say e := modify (say e)

instance : Files (StateM Sandbox) where
  read path := fun s => (s.tree.read path, s)
  write path bytes := change fun t => t.write path bytes
  createDirectories path := change fun t => t.createDirectories path
  remove path := change fun t => t.remove path
  isFile path := fun s => (s.tree.isFile path, s)
  isDirectory path := fun s => (s.tree.isDirectory path, s)

instance : Guards (StateM Sandbox) where
  guard budget := modifyGet (guard budget)

end Sandbox

end LivePreview
