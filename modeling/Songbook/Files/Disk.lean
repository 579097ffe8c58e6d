import Songbook.Files.Tree

/-!
# Disks

A disk is a tree of files that changes by operations, together with a journal of the
operations and of the tree that each one found. From the journal follows every tree that an
interruption could have left: while a content is written, only a first part of it may be there.

## Main definitions

* `Operation.apply` — what an operation makes of a tree.
* `Operation.Leaves` — the trees that an interrupted operation can leave.
* `Disk.perform` — an operation with its entry in the journal.
* `Disk.Passed` — the trees that were there at some point of a journal.
-/

namespace Songbook

/-- What can be done to a tree of files. -/
inductive Operation
  | write (path : Path) (content : ByteArray)
  | rename (source target : Path)
  | remove (path : Path)

namespace Operation

/-- What an operation makes of a tree. -/
def apply : Operation → FileTree → Except SystemFault FileTree
  | write path content, t => t.write path content
  | rename source target, t => t.rename source target
  | remove path, t => t.remove path

/-- The trees that can be found after an operation was begun: the tree before it, the tree after
it, and for a write also every tree with a first part of the content. -/
def Leaves (o : Operation) (before after : FileTree) : Prop :=
  after = before ∨ o.apply before = .ok after ∨
    ∃ path content count, o = write path content ∧
      before.write path (content.extract 0 count) = .ok after

end Operation

/-- A tree of files, and what was done to it so far: each operation with the tree it found. -/
structure Disk where
  tree : FileTree
  journal : List (FileTree × Operation) := []

namespace Disk

/-- A computation on a disk that can fail. What was done before a failure stays done. -/
abbrev Action := ExceptT Error (StateM Disk)

/-- Do an operation, or leave the tree as it is when the operation fails. -/
def perform (o : Operation) : StateM Disk (Except SystemFault Unit) := do
  let d ← get
  let journal := d.journal ++ [(d.tree, o)]
  match o.apply d.tree with
  | .ok tree => set { tree, journal : Disk }; return .ok ()
  | .error fault => set { d with journal }; return .error fault

/-- Whether a tree was there at some point of a journal. -/
def Passed (journal : List (FileTree × Operation)) (t : FileTree) : Prop :=
  ∃ entry ∈ journal, entry.2.Leaves entry.1 t

end Disk

end Songbook
