import Songbook.Proofs.Distinct
import Songbook.Proofs.Text.Bytes
import Songbook.Proofs.Turtle.Comments
import Songbook.Proofs.Turtle.Reading

/-!
# Graphs survive their documents

The document of a graph states its triples from the newest to the oldest. When it is read, the
triples are therefore inserted in the reverse order, and this is the only difference between a
graph and what its document says: `Graph.ofDocument_document`.
-/

namespace Songbook.Graph

open Rdf

/-- A graph whose triples a document can keep. -/
def Writable (g : Graph) : Prop := ∀ t ∈ g.triples, t.Writable

/-- The same triples in the reverse order. -/
def reversed (g : Graph) : Graph := ⟨g.triples.reverse, List.nodup_reverse.mpr g.nodup⟩

theorem reversed_perm (g : Graph) : g.reversed.triples.Perm g.triples := List.reverse_perm _

/-- A graph with more triples holds every triple once. -/
theorem triples_insertAll_eq_eraseDups {g : Graph} {ts : List Triple} :
    (g.insertAll ts).triples = (g.triples ++ ts).eraseDups := by
  have hfilter : ts.removeAll g.triples = ts.filter (· ∉ g.triples) := by
    apply List.filter_congr
    intro t _
    simp
  rw [triples_insertAll, List.eraseDups_append, eraseDups_eq_self g.nodup, hfilter]

theorem triples_insertAll_of_nodup {g : Graph} {ts : List Triple}
    (h : (g.triples ++ ts).Nodup) : (g.insertAll ts).triples = g.triples ++ ts := by
  rw [triples_insertAll_eq_eraseDups, eraseDups_eq_self h]

theorem triples_ofTriples_of_nodup {ts : List Triple} (h : ts.Nodup) :
    (ofTriples ts).triples = ts :=
  triples_insertAll_of_nodup (g := empty) h

/-- A graph of writable triples is read back from its document, in the reverse order. -/
theorem ofDocument_document {g : Graph} (h : g.Writable) :
    ofDocument g.document.toUTF8 = .ok g.reversed := by
  have hwritable : ∀ t ∈ g.triples.reverse, t.Writable := fun t ht => h t (by simpa using ht)
  have hkept := Turtle.withoutComments_bytes_writeTriples hwritable
  have hread := Turtle.readTriples?_writeTriples hwritable
  have hreversed : ofTriples g.triples.reverse = g.reversed :=
    Graph.ext (triples_ofTriples_of_nodup g.reversed.nodup)
  simp only [ofDocument, document, Text.toList_toUTF8_ofList, hkept, Text.fromUTF8?_bytes,
    Option.bind_some, String.toList_ofList, hread, hreversed]

end Songbook.Graph
