import Mathlib.Algebra.Group.Nat.Defs
import Songbook.GraphFile
import Songbook.Proofs.Catalog.Rows
import Songbook.Proofs.Distinct
import Songbook.Proofs.Text.Bytes
import Songbook.Proofs.Turtle.Stated

/-!
# How much a document can tell

Every lexeme of a document is made of its own characters and makes no more than one value
awaited. So a document tells of no more recordings than it has bytes, and since no document has
`2 ^ 63` bytes, the recordings of a graph that was read can be counted in a word:
`Graph.IsRead.length_recordings_lt`.
-/

namespace Songbook

open Rdf

namespace Turtle

theorem length_withoutComments_le (region : Region) (bs : List UInt8) :
    (withoutComments region bs).length ≤ bs.length := by
  fun_induction withoutComments region bs <;> simp only [List.length_cons, List.length_nil] at * <;>
    omega

theorem Lexeme.length_readAll_le {cs : List Char} {lexemes : List Lexeme}
    (h : readAll cs = some lexemes) : lexemes.length ≤ cs.length := by
  fun_induction readAll cs generalizing lexemes with
  | case1 cs hfront =>
    cases h
    exact Nat.zero_le _
  | case2 => cases h
  | case3 cs hfront lexeme rest hread hlt ih =>
    obtain ⟨more, hmore, rfl⟩ := Option.map_eq_some_iff.mp h
    have := ih hmore
    rw [List.length_cons]
    omega
  | case4 => cases h

theorem countP_tellsKind_of_readTriples? {cs : List Char} {ts : List Triple}
    (h : readTriples? cs = some ts) : ts.countP tellsKind ≤ cs.length := by
  obtain ⟨lexemes, st, hlexemes, rfl, hleads⟩ := exists_leads_of_readTriples? h
  have hkinds := hleads.kinds
  have hlength := Lexeme.length_readAll_le hlexemes
  have hnothing : ({} : Reading).kinds = 0 := rfl
  rw [Reading.kinds, hnothing] at hkinds
  rw [List.countP_reverse]
  omega

end Turtle

namespace Graph

variable {g : Graph}

theorem length_recordings_le : g.recordings.length ≤ g.triples.countP Turtle.tellsKind := by
  rw [recordings, subjects, List.length_filterMap_eq_countP, List.countP_reverse]
  apply List.countP_mono_left
  intro t _ ht
  split at ht
  · rename_i hmatch
    exact decide_eq_true hmatch.1.symm
  · cases ht

/-- A document tells of no more recordings than it has bytes. -/
theorem length_recordings_le_size {document : ByteArray} (h : ofDocument document = .ok g) :
    g.recordings.length ≤ document.size := by
  unfold ofDocument at h
  dsimp only at h
  split at h
  · rename_i ts hts
    cases h
    obtain ⟨text, htext, hread⟩ := Option.bind_eq_some_iff.mp hts
    have hkinds : (ofTriples ts).triples.countP Turtle.tellsKind ≤ ts.countP Turtle.tellsKind := by
      have htriples : (ofTriples ts).triples = (ts.filter (· ∉ empty.triples)).eraseDups := by
        rw [ofTriples, triples_insertAll]
        rfl
      rw [htriples]
      exact ((eraseDups_sublist _).trans List.filter_sublist).countP_le
    calc (ofTriples ts).recordings.length
        ≤ (ofTriples ts).triples.countP Turtle.tellsKind := length_recordings_le
      _ ≤ ts.countP Turtle.tellsKind := hkinds
      _ ≤ text.toList.length := Turtle.countP_tellsKind_of_readTriples? hread
      _ ≤ (Turtle.withoutComments .plain document.toList).length := by
        simpa using Text.length_le_of_fromUTF8? htext
      _ ≤ document.toList.length := Turtle.length_withoutComments_le _ _
      _ = document.size := by rw [Text.toList_eq_toList_data]; rfl
  · cases h

/-- A graph that was read from a document in memory or from a file. Neither can have `2 ^ 63`
bytes. -/
inductive IsRead (g : Graph) : Prop
  | document {document : ByteArray} (hsize : document.size < 2 ^ 63)
      (h : ofDocument document = .ok g)
  | file {t : FileTree} {path : String}
      (hsize : ∀ content, t.read (Path.ofText path) = .ok content → content.size < 2 ^ 63)
      (h : load t path = .ok g)

theorem IsRead.exists_document (h : g.IsRead) :
    ∃ document : ByteArray, document.size < 2 ^ 63 ∧ ofDocument document = .ok g := by
  cases h with
  | document hsize h => exact ⟨_, hsize, h⟩
  | @file t path hsize h =>
    unfold load at h
    split at h
    · rename_i content hcontent
      exact ⟨content, hsize content hcontent, h⟩
    · cases h
    · cases h

/-- The recordings of a graph that was read can be counted in a word. -/
theorem IsRead.length_recordings_lt (h : g.IsRead) : g.recordings.length < 2 ^ 63 := by
  obtain ⟨document, hsize, hread⟩ := h.exists_document
  exact Nat.lt_of_le_of_lt (length_recordings_le_size hread) hsize

end Graph

end Songbook
