import Songbook.Files.Disk
import Songbook.Turtle.Document
import Songbook.Turtle.Writer

/-!
# Graph files

A graph is saved as its document. The document is first written to a file next to the target
and then moved to the target, so that the target never holds a part of a document. A graph is
loaded from the document in a file.
-/

namespace Songbook.Graph

/-- Save a graph at a path, in place of the file that may be there. -/
def save (g : Graph) (path : String) : Disk.Action Unit := do
  let target := Path.ofText path
  let temporary := target.temporary
  match ← Disk.perform (.write temporary g.document.toUTF8) with
  | .error fault => throw (.file (.system fault))
  | .ok () =>
    match ← Disk.perform (.rename temporary target) with
    | .ok () => return
    | .error fault =>
      let _ ← Disk.perform (.remove temporary)
      throw (.file (.system fault))

/-- The graph whose document is the file at a path. A directory can be opened like a file, but
there is no document in it. -/
def load (t : FileTree) (path : String) : Except Error Graph :=
  match t.read (Path.ofText path) with
  | .ok content => ofDocument content
  | .error .isADirectory => .error .document
  | .error fault => .error (.file (.cannotOpen path fault))

end Songbook.Graph
