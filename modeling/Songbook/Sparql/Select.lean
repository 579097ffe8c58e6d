import Songbook.Error
import Songbook.Sparql.Reader.Query

/-!
# Asking a graph

A graph answers query texts that ask for rows. A text that is no query fails in one way, and a
query that asks for something else in another.
-/

namespace Songbook.Graph

/-- The rows that answer a query text. -/
def select (g : Graph) (text : String) : Except Error (List Sparql.Row) :=
  match Sparql.readQuery? text with
  | none => .error .query
  | some .unanswered => .error .query
  | some .other => .error (.result .notRows)
  | some (.rows q) => .ok (q.run g)

end Songbook.Graph
