import Songbook.Error
import Songbook.Files.Path

/-!
# Trees of files

A tree holds files and directories at their locations, with the root always a directory, and
knows the directory from which relative paths start. Operations work on paths, and fail as the
operating system does. `FileTree.lookup` is the view in which they are described: `lookup_put`
and `lookup_drop` say what becomes of every location.
-/

namespace Songbook

/-- A place in a tree: the names on the way from the root. -/
abbrev Location := List String

/-- What can be at a location. -/
inductive Entry
  | file (content : ByteArray)
  | directory

/-- Files and directories, and the directory from which relative paths start. -/
structure FileTree where
  entries : List (Location × Entry) := []
  here : Location := []

namespace FileTree

/-- What is at a location. -/
def lookup (t : FileTree) (l : Location) : Option Entry :=
  if l = [] then some .directory else (t.entries.find? (·.1 == l)).map (·.2)

/-- Remove what is at a location. -/
def drop (t : FileTree) (l : Location) : FileTree :=
  { t with entries := t.entries.filter (·.1 != l) }

/-- Put an entry at a location, in place of what was there. -/
def put (t : FileTree) (l : Location) (e : Entry) : FileTree :=
  { t with entries := (l, e) :: t.entries.filter (·.1 != l) }

/-- Dropping empties one location and leaves the others. -/
theorem lookup_drop (t : FileTree) (l k : Location) :
    (t.drop l).lookup k =
      if k = [] then some .directory else if k = l then none else t.lookup k := by
  unfold lookup drop
  by_cases hk : k = []
  · simp [hk]
  · by_cases hkl : k = l
    · subst hkl
      simp [hk, List.find?_filter]
    · simp only [hk, hkl, if_false]
      congr 1
      induction t.entries with
      | nil => rfl
      | cons x xs ih =>
        by_cases hx : x.1 = l
        · have : (x.1 == k) = false := by simp [hx, Ne.symm hkl]
          simp [hx, Ne.symm hkl, ih]
        · by_cases hxk : x.1 = k
          · simp [hxk, hkl]
          · simp [hx, hxk, ih]

/-- Putting fills one location and leaves the others. -/
theorem lookup_put (t : FileTree) (l k : Location) (e : Entry) :
    (t.put l e).lookup k =
      if k = [] then some .directory else if k = l then some e else t.lookup k := by
  have h := lookup_drop t l k
  unfold lookup drop at h
  unfold lookup put
  by_cases hk : k = []
  · simp [hk]
  · by_cases hkl : k = l
    · subst hkl
      simp [hk]
    · simp only [hk, hkl, if_false] at h ⊢
      simpa [List.find?_cons, Ne.symm hkl] using h

/-- Whether there is a directory at a location. -/
def isDirectory (t : FileTree) (l : Location) : Bool :=
  match t.lookup l with
  | some .directory => true
  | _ => false

/-- Whether the system refuses a name whatever it stands for. -/
def nameFault? (name : String) : Option SystemFault :=
  if 255 < name.utf8ByteSize then some .nameTooLong else none

/-- The location that a name leads to from a directory. Whether something is there is not asked,
except that one must start from a directory. -/
def enter (t : FileTree) (l : Location) (name : String) : Except SystemFault Location :=
  match t.lookup l with
  | none => .error .notFound
  | some (.file _) => .error .notADirectory
  | some .directory =>
    if name = "." then .ok l
    else if name = ".." then .ok l.dropLast
    else match nameFault? name with
      | some fault => .error fault
      | none => .ok (l ++ [name])

/-- The location from which a path starts. -/
def start (t : FileTree) (p : Path) : Location := if p.fromRoot then [] else t.here

/-- The location that a path leads to. -/
def locate (t : FileTree) (p : Path) : Except SystemFault Location :=
  if p.names.any (·.toList.contains '\x00') then .error .nulInName
  else if Path.greatestSize < p.size then .error .nameTooLong
  else if p.isNothing then .error .notFound
  else p.names.foldlM t.enter (t.start p)

/-- The content of the file at a path. -/
def read (t : FileTree) (p : Path) : Except SystemFault ByteArray := do
  match t.lookup (← t.locate p) with
  | none => throw .notFound
  | some .directory => throw .isADirectory
  | some (.file content) => if p.toDirectory then throw .notADirectory else return content

/-- Give the file at a path a content. The file is created if it is not there, and its directory
must be there. -/
def write (t : FileTree) (p : Path) (content : ByteArray) : Except SystemFault FileTree := do
  let l ← t.locate p
  if p.toDirectory || !p.endsInName || t.isDirectory l then throw .isADirectory
  return t.put l (.file content)

/-- Move a file to a path, in place of the file that may be there. -/
def rename (t : FileTree) (source target : Path) : Except SystemFault FileTree := do
  let old ← t.locate source
  let new ← t.locate target
  if !source.endsInName || !target.endsInName then throw .busy
  match t.lookup old with
  | none => throw .notFound
  | some .directory => throw .isADirectory
  | some (.file content) =>
    if source.toDirectory || target.toDirectory then throw .notADirectory
    if t.isDirectory new then throw .isADirectory
    return (t.drop old).put new (.file content)

/-- Remove the file at a path. -/
def remove (t : FileTree) (p : Path) : Except SystemFault FileTree := do
  let l ← t.locate p
  match t.lookup l with
  | none => throw .notFound
  | some .directory => throw .isADirectory
  | some (.file _) => if p.toDirectory then throw .notADirectory else return t.drop l

/-- Make a directory at a location and at every location above it, where nothing is yet. -/
def makeDirectory (t : FileTree) (l : Location) : FileTree :=
  (List.range (l.length + 1)).foldl
    (fun t n => if (t.lookup (l.take n)).isNone then t.put (l.take n) .directory else t) t

/-- The entries below the directory from which relative paths start, each with its location
from there. -/
def below (t : FileTree) : List (Location × Entry) :=
  t.entries.filterMap fun (l, e) =>
    if t.here.isPrefixOf l && t.here != l then some (l.drop t.here.length, e) else none

end FileTree

end Songbook
