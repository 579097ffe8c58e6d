import Mathlib.Algebra.Order.BigOperators.Group.List
import Mathlib.Algebra.Order.Group.Nat
import Songbook.Proofs.Catalog.Columns
import Songbook.Proofs.Catalog.Sizes

/-!
# Attributions

The question for appearances counts the recordings of each artist with each name, whatever the
names are. An attribution is an artist of a recording with a name of that artist. So the rows of
the question are the attributions without repetitions, each with the number of times it occurs,
and that number is never above the number of recordings.
-/

namespace Songbook

open Rdf Sparql Catalog

namespace Graph

/-- Every recording with each of its artists and each name of the artist, of whatever kind. -/
def attributions (g : Graph) : List (Term × Term) :=
  g.recordings.flatMap fun r => (g.objects r Vocabulary.byArtist).flatMap fun a =>
    (g.objects a Vocabulary.name).map fun n => (a, n)

variable {g : Graph} {a n : Term}

theorem mem_attributions : (a, n) ∈ g.attributions ↔
    (∃ r ∈ g.recordings, a ∈ g.objects r Vocabulary.byArtist) ∧
      n ∈ g.objects a Vocabulary.name := by
  simp only [attributions, List.mem_flatMap, List.mem_map, Prod.mk.injEq]
  constructor
  · rintro ⟨r, hr, b, hb, m, hm, rfl, rfl⟩
    exact ⟨⟨r, hr, hb⟩, hm⟩
  · rintro ⟨⟨r, hr, ha⟩, hn⟩
    exact ⟨r, hr, a, ha, n, hn, rfl, rfl⟩

/-- One recording makes no attribution twice. -/
theorem nodup_attributions_of_recording (g : Graph) (r : Term) :
    ((g.objects r Vocabulary.byArtist).flatMap fun a =>
      (g.objects a Vocabulary.name).map fun n => (a, n)).Nodup := by
  rw [List.nodup_flatMap]
  constructor
  · intro a _
    exact nodup_objects.map fun m n h => (Prod.mk.inj h).2
  · refine List.Pairwise.imp (fun {a b} hab => ?_) nodup_objects
    intro attribution ha hb
    obtain ⟨m, -, rfl⟩ := List.mem_map.mp ha
    obtain ⟨n, -, heq⟩ := List.mem_map.mp hb
    exact hab (Prod.mk.inj heq).1.symm

theorem count_attributions_le (attribution : Term × Term) :
    g.attributions.count attribution ≤ g.recordings.length := by
  rw [attributions, List.count_flatMap]
  calc (g.recordings.map (List.count attribution ∘ _)).sum
      ≤ (g.recordings.map fun _ => 1).sum := by
        refine List.sum_le_sum fun r _ => ?_
        exact List.nodup_iff_count_le_one.mp (g.nodup_attributions_of_recording r) attribution
    _ = g.recordings.length := by simp

end Graph

namespace Catalog

variable {g : Graph}

/-- The row of an attribution, without the recording. -/
def attributionRow (attribution : Term × Term) : Row :=
  [(artist, attribution.1), (artistName, attribution.2)]

theorem attributionRow_injective : Function.Injective attributionRow := by
  rintro ⟨a, m⟩ ⟨b, n⟩ h
  simp only [attributionRow, List.cons.injEq, Prod.mk.injEq] at h
  simp [h]

theorem map_restrict_rowsOf (g : Graph) :
    (rowsOf g [isRecording, isByArtist, artistHasName]).map (Row.restrict [artist, artistName]) =
      g.attributions.map attributionRow := by
  simp only [rowsOf_credits, Graph.attributions, List.map_flatMap, List.map_map]
  refine List.flatMap_congr fun r _ => List.flatMap_congr fun a _ => ?_
  rw [List.map_eq_flatMap]
  rfl

/-- The rows of recordings by one artist, with one name. -/
def attributedRows (g : Graph) (attribution : Term × Term) : List Row :=
  (rowsOf g [isRecording, isByArtist, artistHasName]).filter fun row =>
    row.restrict [artist, artistName] == attributionRow attribution

theorem length_attributedRows (attribution : Term × Term) :
    (attributedRows g attribution).length = g.attributions.count attribution := by
  have hcongr : ∀ other, (attributionRow other == attributionRow attribution) =
      (other == attribution) := by
    intro other
    rw [Bool.eq_iff_iff, beq_iff_eq, beq_iff_eq, attributionRow_injective.eq_iff]
  have hmap := congrArg (List.countP (· == attributionRow attribution)) (map_restrict_rowsOf g)
  rw [List.countP_map, List.countP_map] at hmap
  rw [attributedRows, ← List.countP_eq_length_filter, List.count]
  refine hmap.trans (List.countP_congr fun other _ => ?_)
  simp [hcongr]

theorem exists_track_eq {row : Row}
    (hrow : row ∈ rowsOf g [isRecording, isByArtist, artistHasName]) :
    ∃ r, row.get? track = some r := by
  simp only [rowsOf_credits, List.mem_flatMap, List.mem_singleton] at hrow
  obtain ⟨r, _, a, _, n, _, rfl⟩ := hrow
  exact ⟨r, rfl⟩

theorem count_attributedRows (attribution : Term × Term) :
    Aggregate.value? (attributedRows g attribution) (.count false (.unknown track)) =
      some (countTerm (g.attributions.count attribution)) := by
  have hlength : ((attributedRows g attribution).filterMap fun row =>
      (Expression.unknown track).value? row).length = (attributedRows g attribution).length := by
    rw [List.length_filterMap_eq_countP, List.countP_eq_length]
    intro row hrow
    obtain ⟨r, hr⟩ := exists_track_eq (List.mem_of_mem_filter hrow)
    simp [Expression.value?, hr]
  simp [Aggregate.value?, hlength, length_attributedRows]

/-- The groups of rows are the attributions, with the rows of each of them. -/
theorem groupRows_attributions (g : Graph) :
    groupRows [artist, artistName] (rowsOf g [isRecording, isByArtist, artistHasName]) =
      g.attributions.eraseDups.map fun attribution =>
        (attributionRow attribution, attributedRows g attribution) := by
  rw [groupRows, map_restrict_rowsOf, eraseDups_map attributionRow_injective, List.map_map]
  rfl

/-- The row of a group with its number, which is computed first and then put into a column. -/
def countedRow (attribution : Term × Term) (count : Nat) : Row :=
  attributionRow attribution ++
    [(computed, countTerm count), (.named "numSongs", countTerm count)]

/-- Every artist with each name and the number of attributions. -/
theorem map_collected_attributions (g : Graph) :
    (artistsByAppearanceQuery.collected g).map artistsByAppearanceQuery.withColumns =
      g.attributions.eraseDups.map fun attribution =>
        countedRow attribution (g.attributions.count attribution) := by
  let grouping := groupedBy [artist, artistName] (.count false (.unknown track))
  have hgroups : artistsByAppearanceQuery.collected g =
      (groupRows [artist, artistName] (artistsByAppearanceQuery.matching g)).map
        grouping.summary := by
    have hfilter : artistsByAppearanceQuery.collected g =
        grouping.apply (artistsByAppearanceQuery.matching g) := List.filter_true _
    rw [hfilter]
    simp [Grouping.apply, grouping, groupedBy]
  rw [hgroups, matching_artistsByAppearance, groupRows_attributions, List.map_map, List.map_map]
  refine List.map_congr_left fun attribution _ => ?_
  -- the group becomes its key with the number, and the column repeats the number
  have hsummary : grouping.summary (attributionRow attribution, attributedRows g attribution) =
      attributionRow attribution ++
        [(computed, countTerm (g.attributions.count attribution))] := by
    simp only [Grouping.summary, grouping, groupedBy, List.foldl_cons, List.foldl_nil,
      count_attributedRows, Row.extend]
  simp only [Function.comp_apply, hsummary, Query.withColumns, artistsByAppearanceQuery,
    List.foldl_cons, List.foldl_nil]
  rfl

end Catalog

end Songbook
