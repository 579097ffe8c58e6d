import Songbook.Rdf.Term

/-!
# Graphs

A graph is a set of triples that remembers the order in which they were first inserted. No
triple occurs twice, and inserting one that is there already changes nothing.
-/

namespace Songbook

open Rdf

/-- Triples in the order of their first insertion. -/
structure Graph where
  triples : List Triple
  nodup : triples.Nodup

namespace Graph

/-- The graph without triples. -/
def empty : Graph := ⟨[], List.nodup_nil⟩

/-- The number of triples. -/
def size (g : Graph) : Nat := g.triples.length

/-- Whether there is no triple. -/
def isEmpty (g : Graph) : Bool := g.triples.isEmpty

/-- Insert a triple behind all others, unless it is there already. -/
def insert (g : Graph) (t : Triple) : Graph :=
  if h : t ∈ g.triples then g
  else ⟨g.triples ++ [t], by
    rw [List.nodup_append]
    exact ⟨g.nodup, by simp, by rintro a ha b hb rfl; simp_all⟩⟩

/-- Insert triples one after the other. -/
def insertAll (g : Graph) (ts : List Triple) : Graph := ts.foldl insert g

/-- The graph of a list of triples. -/
def ofTriples (ts : List Triple) : Graph := empty.insertAll ts

/-- Two graphs with the same triples in the same order are the same. -/
@[ext] theorem ext {g h : Graph} (e : g.triples = h.triples) : g = h := by
  cases g; cases h; simp_all

/-- A triple that is there already is not inserted again. -/
theorem insert_of_mem {g : Graph} {t : Triple} (h : t ∈ g.triples) : g.insert t = g := by
  simp [insert, h]

/-- A new triple comes behind all others. -/
theorem triples_insert_of_not_mem {g : Graph} {t : Triple} (h : t ∉ g.triples) :
    (g.insert t).triples = g.triples ++ [t] := by
  simp [insert, h]

/-- What is in a graph after an insertion. -/
theorem mem_insert {g : Graph} {t u : Triple} :
    u ∈ (g.insert t).triples ↔ u ∈ g.triples ∨ u = t := by
  by_cases h : t ∈ g.triples
  · rw [insert_of_mem h]
    constructor
    · exact Or.inl
    · rintro (hu | rfl)
      · exact hu
      · exact h
  · simp [triples_insert_of_not_mem h]

/-- What is in a graph after several insertions. -/
theorem mem_insertAll {g : Graph} {ts : List Triple} {u : Triple} :
    u ∈ (g.insertAll ts).triples ↔ u ∈ g.triples ∨ u ∈ ts := by
  induction ts generalizing g with
  | nil => simp [insertAll]
  | cons t ts ih =>
    have h := ih (g := g.insert t)
    simp only [insertAll, List.foldl_cons, List.mem_cons] at h ⊢
    rw [h, mem_insert]
    constructor
    · rintro ((h | h) | h)
      · exact Or.inl h
      · exact Or.inr (Or.inl h)
      · exact Or.inr (Or.inr h)
    · rintro (h | h | h)
      · exact Or.inl (Or.inl h)
      · exact Or.inl (Or.inr h)
      · exact Or.inr h

/-- New triples come behind all others, in the order in which they first occur. -/
theorem triples_insertAll {g : Graph} {ts : List Triple} :
    (g.insertAll ts).triples = g.triples ++ (ts.filter (· ∉ g.triples)).eraseDups := by
  induction ts generalizing g with
  | nil => simp [insertAll]
  | cons t ts ih =>
    change ((g.insert t).insertAll ts).triples = _
    by_cases ht : t ∈ g.triples
    · rw [insert_of_mem ht, ih, List.filter_cons_of_neg (by simpa using ht)]
    · have hfilter : ts.filter (· ∉ g.triples ++ [t]) =
          (ts.filter (· ∉ g.triples)).filter fun u => !u == t := by
        rw [List.filter_filter]
        apply List.filter_congr
        intro u _
        rw [Bool.eq_iff_iff]
        simp [and_comm]
      rw [ih, triples_insert_of_not_mem ht, hfilter, List.append_assoc, List.singleton_append,
        List.filter_cons_of_pos (by simpa using ht), List.eraseDups_cons]

end Graph

end Songbook
