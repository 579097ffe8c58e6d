/-!
# Paths

A path is a text whose pieces are separated by slashes. The pieces say where it starts, which
names lie on the way and whether it insists on ending at a directory. The name next to a path
is where a new content is prepared before it takes the place of the old one.
-/

namespace Songbook

/-- A path by its pieces, which are what stands between its slashes. Pieces without characters
belong to slashes at an end or next to each other. -/
structure Path where
  pieces : List String
  deriving DecidableEq, Repr

namespace Path

/-- What stands between the slashes of a text. -/
def split : List Char → List (List Char)
  | [] => [[]]
  | '/' :: r => [] :: split r
  | c :: r =>
    match split r with
    | [] => [[c]]
    | piece :: rest => (c :: piece) :: rest

/-- Take a text apart. -/
def ofText (text : String) : Path where
  pieces := (split text.toList).map String.ofList

/-- The text of a path. -/
def text (p : Path) : String := "/".intercalate p.pieces

/-- Whether the path starts at the root, because a slash stands at the front. -/
def fromRoot (p : Path) : Bool := p.pieces.head? == some "" && 1 < p.pieces.length

/-- Whether the path insists on a directory, because a slash stands at the end. -/
def toDirectory (p : Path) : Bool := p.pieces.getLast? == some "" && 1 < p.pieces.length

/-- The names on the way. Repeated slashes count as one. -/
def names (p : Path) : List String := p.pieces.filter (· != "")

/-- The number of bytes of the text. -/
def size (p : Path) : Nat :=
  p.pieces.foldl (fun n piece => n + piece.utf8ByteSize) (p.pieces.length - 1)

/-- The greatest size of a path with which the system deals. -/
def greatestSize : Nat := 4095

/-- Whether nothing at all was written. -/
def isNothing (p : Path) : Bool := !p.fromRoot && p.names.isEmpty

/-- Whether a name leads to a directory that is there already: the same one or the one above. -/
def isStep (name : String) : Bool := name == "." || name == ".."

/-- Whether the last name of a path is the name of an entry, and not a step. -/
def endsInName (p : Path) : Bool :=
  match p.names.getLast? with
  | some name => !isStep name
  | none => false

/-- Pieces without those at the end that lead nowhere. The first piece always counts. -/
def settle : List String → List String
  | [] => []
  | first :: rest => first :: (rest.reverse.dropWhile fun s => s == "" || s == ".").reverse

/-- The path of the file next to a path in which a new content is prepared: the last name gets
an ending, and a path without one gets a name that is only the ending. -/
def temporary (p : Path) : Path where
  pieces :=
    let settled := settle p.pieces
    match settled.getLast? with
    | some name =>
      if name = "" ∨ isStep name then
        (if p.pieces.getLast? = some "" then p.pieces.dropLast else p.pieces) ++ [".tmp"]
      else settle settled.dropLast ++ [name ++ ".tmp"]
    | none => [".tmp"]

end Path

end Songbook
