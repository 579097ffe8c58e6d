import Mathlib.Algebra.Order.BigOperators.Group.List
import Mathlib.Data.List.Nodup
import Songbook.Proofs.Catalog.Lengths
import Songbook.Proofs.Insertion

/-!
# Totals within a word and beyond

The total of a graph is exact as long as it fits into a word. Beyond that it is answered as zero,
like the total of a graph without lengths, and not as a failure: `totals_within_word`,
`total_beyond_word`.
-/

namespace Songbook

open Rdf Catalog

namespace Graph

variable {g h : Graph}

/-- The triples that give a recording a value for its length. -/
def lengthTriples (g : Graph) : List Triple :=
  g.triples.filter fun t => t.predicate = Vocabulary.duration ∧
    ⟨t.subject, Vocabulary.rdfType, .node (.iri Vocabulary.musicRecording)⟩ ∈ g.triples

/-- The lengths that count, one for each recording and value. -/
def countedLengths (g : Graph) : List Nat := g.lengthTriples.filterMap fun t => lengthOf? t.object

/-- The exact sum of the lengths that count. -/
def exactTotal (g : Graph) : Nat := g.countedLengths.sum

/-- The recordings one after the other have all these triples, each of them once. -/
theorem lengthTriples_perm :
    (g.recordings.flatMap fun r => g.triples.reverse.filter fun t =>
      r = .node t.subject ∧ Vocabulary.duration = t.predicate).Perm g.lengthTriples := by
  refine (List.perm_ext_iff_of_nodup ?_ (g.nodup.filter _)).mpr fun t => ?_
  · refine List.nodup_flatMap.mpr ⟨fun r _ => (List.nodup_reverse.mpr g.nodup).filter _, ?_⟩
    refine nodup_recordings.imp fun {r r'} hne => ?_
    intro t ht ht'
    simp only [List.mem_filter, decide_eq_true_eq] at ht ht'
    exact hne (ht.2.1.trans ht'.2.1.symm)
  · simp only [List.mem_flatMap, List.mem_filter, List.mem_reverse, decide_eq_true_eq]
    constructor
    · rintro ⟨r, hr, ht, rfl, hduration⟩
      obtain ⟨n, hn, htype⟩ := mem_subjects.mp hr
      cases hn
      exact ⟨ht, hduration.symm, htype⟩
    · rintro ⟨ht, hduration, htype⟩
      exact ⟨_, mem_subjects.mpr ⟨t.subject, rfl, htype⟩, ht, rfl, hduration.symm⟩

theorem sum_allLengths (g : Graph) : g.allLengths.sum = g.exactTotal := by
  have hlengths : g.allLengths = (g.recordings.flatMap fun r => g.triples.reverse.filter fun t =>
      r = .node t.subject ∧ Vocabulary.duration = t.predicate).filterMap
        fun t => lengthOf? t.object := by
    rw [allLengths, List.filterMap_flatMap]
    refine List.flatMap_congr fun r _ => ?_
    rw [lengths, objects, List.filterMap_filterMap, List.filterMap_filter]
    refine List.filterMap_congr fun t _ => ?_
    by_cases hmatch : r = .node t.subject ∧ Vocabulary.duration = t.predicate
    · simp [hmatch]
    · simp [hmatch]
  rw [hlengths]
  exact (lengthTriples_perm.filterMap _).sum_eq

/-- More triples do not make the sum smaller. -/
theorem exactTotal_le (hsub : g.triples.Sublist h.triples) : g.exactTotal ≤ h.exactTotal := by
  have hkept : g.lengthTriples.Sublist h.lengthTriples := by
    refine (List.monotone_filter_right _ fun t ht => ?_).trans (hsub.filter _)
    rw [decide_eq_true_iff] at ht ⊢
    exact ⟨ht.1, hsub.subset ht.2⟩
  exact (hkept.filterMap _).sum_le_sum fun n _ => Nat.zero_le n

/-- Graphs that come from a document, a file or a list of tracks, by any insertions of tracks, of
which some may have failed. -/
inductive Obtained : Graph → Prop
  | document {document : ByteArray} {g : Graph} (h : ofDocument document = .ok g) : Obtained g
  | file {t : FileTree} {path : String} {g : Graph} (h : load t path = .ok g) : Obtained g
  | tracks {ts : List Track} {g : Graph} (h : ofTracks ts = .ok g) : Obtained g
  | inserted {g : Graph} (t : Track) (h : Obtained g) : Obtained (t.insertion.run.run g).2

/-- An insertion leaves what was there in its place. -/
theorem sublist_insertion (t : Track) (g : Graph) :
    g.triples.Sublist (t.insertion.run.run g).2.triples := by
  rw [run_insertion]
  split
  · exact List.Sublist.refl _
  · dsimp only
    rw [triples_insertAll]
    exact List.sublist_append_left _ _

theorem normalized_of_mem_described {t : Track} {x : Triple} (hx : x ∈ t.described) :
    x.object.Normalized := by
  have hN := holdsOfStated_normalized
  simp only [Track.described, Track.triplesWith, List.mem_cons, List.not_mem_nil, or_false] at hx
  rcases hx with rfl | rfl | rfl | rfl | rfl | rfl | rfl
  · exact hN.node _
  · exact hN.plain _
  · exact hN.lexical _ _
  · exact hN.node _
  · exact hN.plain _
  · exact hN.node _
  · exact hN.plain _

theorem Obtained.normalized (h : g.Obtained) : ∀ x ∈ g.triples, x.object.Normalized := by
  induction h with
  | document h => exact object_of_ofDocument holdsOfStated_normalized h
  | file h =>
    unfold load at h
    split at h
    · exact object_of_ofDocument holdsOfStated_normalized h
    · cases h
    · cases h
  | tracks h =>
    obtain ⟨-, rfl⟩ := ofTracks_eq_ok_iff.mp h
    intro x hx
    obtain ⟨t, -, hx⟩ := List.mem_flatMap.mp (mem_ofTriples.mp hx)
    exact normalized_of_mem_described hx
  | inserted t h ih =>
    intro x hx
    rw [run_insertion] at hx
    split at hx
    · exact ih x hx
    · rcases mem_insertAll.mp hx with hx | hx
      · exact ih x hx
      · exact normalized_of_mem_described hx

end Graph

namespace Catalog

variable {g : Graph}

theorem totalLength_eq_exactTotal (g : Graph) :
    totalLength g = .ok (if g.exactTotal < 2 ^ 63 then g.exactTotal else 0) := by
  rw [totalLength_eq, g.sum_allLengths]

/-- What counts is what is a length by its datatype and its spelling, once for each recording. As
long as the sum fits into a word it is answered exactly, so that an answer of zero means that no
length is positive, and a track more never makes the answer smaller. A sum beyond a word is
answered as zero. -/
theorem totals_within_word (h : g.Obtained) :
    (∀ x ∈ g.lengthTriples, ∀ seconds,
      lengthOf? x.object = some seconds ↔ x.object.IsLength seconds) ∧
    totalLength g = .ok (if g.exactTotal < 2 ^ 63 then g.exactTotal else 0) ∧
    (∀ n, totalLength g = .ok n → 0 < n → n = g.exactTotal) ∧
    (totalLength g = .ok 0 → g.exactTotal < 2 ^ 63 → ∀ seconds ∈ g.countedLengths, seconds = 0) ∧
    ∀ t : Track,
      let after := (t.insertion.run.run g).2
      g.exactTotal ≤ after.exactTotal ∧ (after.exactTotal < 2 ^ 63 →
        ∀ n m, totalLength g = .ok n → totalLength after = .ok m → n ≤ m) := by
  refine ⟨?_, totalLength_eq_exactTotal g, ?_, ?_, ?_⟩
  · intro x hx seconds
    exact (h.normalized x (List.mem_filter.mp hx).1).lengthOf?_eq_some_iff
  · intro n hn hpos
    rw [totalLength_eq_exactTotal, Except.ok.injEq] at hn
    split at hn <;> omega
  · intro hzero hfits
    rw [totalLength_eq_exactTotal, if_pos hfits, Except.ok.injEq] at hzero
    exact List.sum_eq_zero_iff.mp hzero
  · intro t
    have hle := Graph.exactTotal_le (Graph.sublist_insertion t g)
    refine ⟨hle, ?_⟩
    intro hfits n m hn hm
    rw [totalLength_eq_exactTotal, if_pos (Nat.lt_of_le_of_lt hle hfits)] at hn
    rw [totalLength_eq_exactTotal, if_pos hfits] at hm
    rwa [← Except.ok.inj hn, ← Except.ok.inj hm]

/-- A recording that leaves room for one second, and one more second. -/
def almostFull : String :=
  Text.lines
    ["@prefix s: <http://schema.org/> .",
      "<song:1> a s:MusicRecording ; s:duration 9223372036854775806 ."]

/-- The last second that fits is counted. -/
theorem totals_within_word_almostFull :
    let artist : Entity := ⟨"spotify:artist:x", "X"⟩
    let second : Track := ⟨"song:2", "B", 1999, artist, ⟨"spotify:album:a", "A"⟩⟩
    ∃ g, Graph.ofDocument almostFull.toUTF8 = .ok g ∧
      totalLength g = .ok 9223372036854775806 ∧
      totalLength (second.insertion.run.run g).2 = .ok 9223372036854775807 := by
  intro artist second
  obtain ⟨g, hread, hsums⟩ : ∃ g, Graph.ofDocument almostFull.toUTF8 = .ok g ∧
      (g.exactTotal, (second.insertion.run.run g).2.exactTotal) =
        (9223372036854775806, 9223372036854775807) :=
    exists_of_map_toOption (by decide +kernel)
  obtain ⟨hbefore, hafter⟩ := Prod.mk.inj hsums
  have hobtained : g.Obtained := .document hread
  obtain ⟨-, htotal, -⟩ := totals_within_word hobtained
  obtain ⟨-, htotal', -⟩ := totals_within_word (hobtained.inserted second)
  rw [hbefore] at htotal
  rw [hafter] at htotal'
  exact ⟨g, hread, htotal, htotal'⟩

/-- Two recordings whose lengths have a sum beyond a word. -/
def beyondWord : String :=
  Text.lines
    ["@prefix s: <http://schema.org/> .",
      "<song:1> a s:MusicRecording ; s:duration 9223372036854775807 .",
      "<song:2> a s:MusicRecording ; s:duration 1 ."]

/-- The total is answered, and as zero, although both lengths count. -/
theorem total_beyond_word :
    ∃ g, Graph.ofDocument beyondWord.toUTF8 = .ok g ∧
      g.countedLengths = [9223372036854775807, 1] ∧ totalLength g = .ok 0 := by
  obtain ⟨g, hread, hcounted⟩ : ∃ g, Graph.ofDocument beyondWord.toUTF8 = .ok g ∧
      g.countedLengths = [9223372036854775807, 1] :=
    exists_of_map_toOption (by decide +kernel)
  refine ⟨g, hread, hcounted, ?_⟩
  rw [totalLength_eq_exactTotal, Graph.exactTotal, hcounted]
  rfl

end Catalog

end Songbook
