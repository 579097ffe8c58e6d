import Mathlib.Data.List.Nodup
import Songbook.Sparql.Query

/-!
# Matching one pattern

The patterns of the catalog all have the shape: something has a property with a value, where the
property is known. One such pattern extends a row by the nodes that have the value, or by the
values that a node has, in the order in which the graph gives them. `Graph.subjects` and
`Graph.objects` name these, and hence a whole list of patterns becomes a comprehension over them.
-/

namespace Songbook

open Rdf

namespace Graph

variable (g : Graph)

/-- The nodes that have a value for a property, the newest triple first. -/
def subjects (property : Iri) (value : Term) : List Term :=
  g.triples.reverse.filterMap fun t =>
    if property = t.predicate ∧ value = t.object then some (.node t.subject) else none

/-- The values that a node has for a property, the newest triple first. -/
def objects (about : Term) (property : Iri) : List Term :=
  g.triples.reverse.filterMap fun t =>
    if about = .node t.subject ∧ property = t.predicate then some t.object else none

variable {g} {about value : Term} {property : Iri}

theorem mem_subjects :
    about ∈ g.subjects property value ↔
      ∃ n, about = .node n ∧ ⟨n, property, value⟩ ∈ g.triples := by
  simp only [subjects, List.mem_filterMap, List.mem_reverse, Option.ite_none_right_eq_some,
    Option.some.injEq]
  constructor
  · rintro ⟨⟨n, p, o⟩, ht, ⟨rfl, rfl⟩, rfl⟩
    exact ⟨n, rfl, ht⟩
  · rintro ⟨n, rfl, ht⟩
    exact ⟨_, ht, ⟨rfl, rfl⟩, rfl⟩

theorem mem_objects :
    value ∈ g.objects about property ↔
      ∃ n, about = .node n ∧ ⟨n, property, value⟩ ∈ g.triples := by
  simp only [objects, List.mem_filterMap, List.mem_reverse, Option.ite_none_right_eq_some,
    Option.some.injEq]
  constructor
  · rintro ⟨⟨n, p, o⟩, ht, ⟨rfl, rfl⟩, rfl⟩
    exact ⟨n, rfl, ht⟩
  · rintro ⟨n, rfl, ht⟩
    exact ⟨_, ht, ⟨rfl, rfl⟩, rfl⟩

theorem nodup_subjects : (g.subjects property value).Nodup := by
  refine List.Nodup.filterMap (fun t u x ht hu => ?_) (List.nodup_reverse.mpr g.nodup)
  obtain ⟨s, p, o⟩ := t
  obtain ⟨s', p', o'⟩ := u
  simp only [Option.mem_def, Option.ite_none_right_eq_some, Option.some.injEq] at ht hu
  obtain ⟨⟨rfl, rfl⟩, rfl⟩ := ht
  obtain ⟨⟨rfl, rfl⟩, hs⟩ := hu
  cases hs
  rfl

theorem nodup_objects : (g.objects about property).Nodup := by
  refine List.Nodup.filterMap (fun t u x ht hu => ?_) (List.nodup_reverse.mpr g.nodup)
  obtain ⟨s, p, o⟩ := t
  obtain ⟨s', p', o'⟩ := u
  simp only [Option.mem_def, Option.ite_none_right_eq_some, Option.some.injEq] at ht hu
  obtain ⟨⟨rfl, rfl⟩, rfl⟩ := ht
  obtain ⟨⟨hs, rfl⟩, rfl⟩ := hu
  cases hs
  rfl

end Graph

namespace Sparql

/-- The pattern that something has a value for a known property. -/
def Pattern.having (subject : Variable) (property : Iri) (object : Slot) : Pattern :=
  ⟨.unknown subject, .known (.node (.iri property)), object⟩

variable {g : Graph} {v w : Variable} {property : Iri} {row : Row}

theorem extend_known (value : Term) (hv : row.get? v = none) :
    (Pattern.having v property (.known value)).extend g row =
      (g.subjects property value).map fun s => row ++ [(v, s)] := by
  simp only [Pattern.extend, Graph.subjects, List.map_filterMap]
  refine List.filterMap_congr fun t _ => ?_
  by_cases hp : property = t.predicate <;> by_cases ho : value = t.object <;>
    simp [Pattern.having, Pattern.bind, Slot.bind, hv, hp, ho]

theorem extend_values {about : Term} (hv : row.get? v = some about) (hw : row.get? w = none) :
    (Pattern.having v property (.unknown w)).extend g row =
      (g.objects about property).map fun o => row ++ [(w, o)] := by
  simp only [Pattern.extend, Graph.objects, List.map_filterMap]
  refine List.filterMap_congr fun t _ => ?_
  by_cases hs : about = .node t.subject <;> by_cases hp : property = t.predicate <;>
    simp [Pattern.having, Pattern.bind, Slot.bind, hv, hw, hs, hp]

/-- A node and a value that are known keep the row if the one has the other. -/
theorem extend_check {about : Term} (value : Term) (hv : row.get? v = some about) :
    (Pattern.having v property (.known value)).extend g row =
      ((g.objects about property).filter (value == ·)).map fun _ => row := by
  simp only [Pattern.extend, Graph.objects, List.filter_filterMap, List.map_filterMap]
  refine List.filterMap_congr fun t _ => ?_
  by_cases hs : about = .node t.subject <;> by_cases hp : property = t.predicate <;>
    by_cases ho : value = t.object <;>
    simp [Pattern.having, Pattern.bind, Slot.bind, hv, hs, hp, ho, Option.filter_some]

/-! ### Several patterns -/

/-- The rows that patterns make of a row, one pattern after the other. -/
def follow (g : Graph) (row : Row) : List Pattern → List Row
  | [] => [row]
  | p :: rest => (p.extend g row).flatMap fun row => follow g row rest

theorem foldl_extend_eq_follow (g : Graph) (patterns : List Pattern) (rows : List Row) :
    patterns.foldl (fun rows p => rows.flatMap (p.extend g)) rows =
      rows.flatMap fun row => follow g row patterns := by
  induction patterns generalizing rows with
  | nil => simp [follow]
  | cons p patterns ih => simp [follow, ih, List.flatMap_assoc]

theorem rowsOf_eq_follow {patterns : List Pattern} (size : Nat)
    (h : Component.split patterns.length patterns = [⟨patterns, size⟩]) (g : Graph) :
    rowsOf g patterns = follow g [] patterns := by
  simp [rowsOf, h, Component.rows, foldl_extend_eq_follow]

theorem follow_known {value : Term} {rest : List Pattern} (hv : row.get? v = none) :
    follow g row (.having v property (.known value) :: rest) =
      (g.subjects property value).flatMap fun s => follow g (row ++ [(v, s)]) rest := by
  rw [follow, extend_known value hv, List.flatMap_map]

theorem follow_values {about : Term} {rest : List Pattern} (hv : row.get? v = some about)
    (hw : row.get? w = none) :
    follow g row (.having v property (.unknown w) :: rest) =
      (g.objects about property).flatMap fun o => follow g (row ++ [(w, o)]) rest := by
  rw [follow, extend_values hv hw, List.flatMap_map]

theorem follow_check {about value : Term} {rest : List Pattern} (hv : row.get? v = some about) :
    follow g row (.having v property (.known value) :: rest) =
      ((g.objects about property).filter (value == ·)).flatMap fun _ => follow g row rest := by
  rw [follow, extend_check value hv, List.flatMap_map]

end Sparql

end Songbook
