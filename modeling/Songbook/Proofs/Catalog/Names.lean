import Songbook.Proofs.Catalog.Credits
import Songbook.Proofs.Insertion
import Songbook.Proofs.Reloading

/-!
# Names of artists in queries

The name of an artist is written into the text of a query. Whatever the name is, its literal is
read back as this name, and the rest of the query stays what it is. So the titles that are found
are those of the artists whose name is equal to it, and of no others: `songs_of_any_name`.
-/

namespace Songbook

open Rdf Sparql Catalog

namespace Graph

variable {g : Graph} {name : String}

theorem mem_names {about : Term} {s : String} :
    s ∈ g.names about ↔ .literal (.plain s) ∈ g.objects about Vocabulary.name := by
  rw [names, List.mem_filterMap]
  constructor
  · rintro ⟨o, ho, hs⟩
    unfold plainText? at hs
    split at hs
    · cases hs
      exact ho
    · cases hs
  · intro h
    exact ⟨_, h, rfl⟩

theorem nodup_names {about : Term} : (g.names about).Nodup := by
  refine nodup_objects.filterMap fun o o' s ho ho' => ?_
  unfold plainText? at ho ho'
  split at ho <;> split at ho' <;> simp_all

/-- Every recording with each of its titles and each of its artists that have a name. -/
def creditedTo (g : Graph) (name : String) : List (Term × String × Term) :=
  g.recordings.flatMap fun r => (g.names r).flatMap fun t =>
    ((g.objects r Vocabulary.byArtist).filter fun a => name ∈ g.names a).map fun a => (r, t, a)

theorem mem_creditedTo {credit : Term × String × Term} :
    credit ∈ g.creditedTo name ↔ ∃ n title m, credit = (.node n, title, .node m) ∧
      ⟨n, Vocabulary.rdfType, .node (.iri Vocabulary.musicRecording)⟩ ∈ g.triples ∧
      ⟨n, Vocabulary.name, .literal (.plain title)⟩ ∈ g.triples ∧
      ⟨n, Vocabulary.byArtist, .node m⟩ ∈ g.triples ∧
      ⟨m, Vocabulary.name, .literal (.plain name)⟩ ∈ g.triples := by
  simp only [creditedTo, List.mem_flatMap, List.mem_map, List.mem_filter, decide_eq_true_eq,
    recordings, mem_subjects, mem_names, mem_objects]
  constructor
  · rintro ⟨_, ⟨n, rfl, htype⟩, title, ⟨n', hn', htitle⟩, _, ⟨⟨n'', hn'', hartist⟩, m, rfl, hname⟩,
      rfl⟩
    cases hn'
    cases hn''
    exact ⟨n, title, m, rfl, htype, htitle, hartist, hname⟩
  · rintro ⟨n, title, m, rfl, htype, htitle, hartist, hname⟩
    exact ⟨_, ⟨n, rfl, htype⟩, title, ⟨n, rfl, htitle⟩, _, ⟨⟨n, rfl, hartist⟩, m, rfl, hname⟩, rfl⟩

theorem nodup_creditedTo : (g.creditedTo name).Nodup := by
  refine List.nodup_flatMap.mpr ⟨fun r _ => List.nodup_flatMap.mpr ⟨fun t _ => ?_, ?_⟩, ?_⟩
  · refine (nodup_objects.filter _).map fun a a' h => ?_
    simpa using h
  · refine nodup_names.imp fun {t t'} hne => ?_
    intro credit hcredit hcredit'
    obtain ⟨a, -, rfl⟩ := List.mem_map.mp hcredit
    obtain ⟨a', -, heq⟩ := List.mem_map.mp hcredit'
    simp only [Prod.mk.injEq] at heq
    exact hne heq.2.1.symm
  · refine nodup_recordings.imp fun {r r'} hne => ?_
    intro credit hcredit hcredit'
    obtain ⟨t, -, hcredit⟩ := List.mem_flatMap.mp hcredit
    obtain ⟨a, -, rfl⟩ := List.mem_map.mp hcredit
    obtain ⟨t', -, hcredit'⟩ := List.mem_flatMap.mp hcredit'
    obtain ⟨a', -, heq⟩ := List.mem_map.mp hcredit'
    simp only [Prod.mk.injEq] at heq
    exact hne heq.1.symm

theorem map_title_filter_artistSongs (g : Graph) (name : String) :
    (g.artistSongs.filter (·.artist = name)).map ArtistSong.title =
      (g.creditedTo name).map fun credit => credit.2.1 := by
  simp only [artistSongs, creditedTo, List.filter_flatMap, List.map_flatMap, List.map_map]
  refine List.flatMap_congr fun r _ => List.flatMap_congr fun t _ => ?_
  rw [filter_eq_flatMap, List.map_flatMap]
  refine List.flatMap_congr fun a _ => ?_
  -- an artist has a name no more than once
  have hcount : (g.names a).count name = if name ∈ g.names a then 1 else 0 := nodup_names.count
  rw [List.filter_map, List.map_map]
  have hfilter : (g.names a).filter
      ((fun s : ArtistSong => decide (s.artist = name)) ∘ fun n => ⟨n, t⟩) =
        List.replicate ((g.names a).count name) name := List.filter_eq _
  rw [hfilter, hcount]
  by_cases hname : name ∈ g.names a
  · simp [hname]
  · simp [hname]

/-- What insertions leave, some of which may have failed, is the graph of the valid tracks. -/
theorem ofTracks_filter_valid (ts : List Track) :
    ofTracks (ts.filter (·.Valid)) = .ok ((insertEach ts).run empty).2 := by
  rw [run_insertEach]
  exact ofTracks_eq_ok_iff.mpr ⟨fun t ht => by simpa using (List.mem_filter.mp ht).2, rfl⟩

end Graph

namespace Catalog

/-- Whatever a name is, the titles of all songs by artists of this name are found, in order and as
often as a recording has such a title and such an artist. Nothing is found for a name that no
artist has. The text of the query is read with this name in it, and with nothing else changed. -/
theorem songs_of_any_name (ts : List Track) (name : String) :
    let g := ((Graph.insertEach ts).run Graph.empty).2
    ∃ titles, songsForArtist g name = .ok titles ∧ titles.Pairwise (· ≤ ·) ∧
      (∃ credits : List (Term × String × Term), credits.Nodup ∧
        (∀ credit, credit ∈ credits ↔ ∃ n title m, credit = (.node n, title, .node m) ∧
          ⟨n, Vocabulary.rdfType, .node (.iri Vocabulary.musicRecording)⟩ ∈ g.triples ∧
          ⟨n, Vocabulary.name, .literal (.plain title)⟩ ∈ g.triples ∧
          ⟨n, Vocabulary.byArtist, .node m⟩ ∈ g.triples ∧
          ⟨m, Vocabulary.name, .literal (.plain name)⟩ ∈ g.triples) ∧
        titles.Perm (credits.map fun credit => credit.2.1)) ∧
      ((∀ n m, ⟨n, Vocabulary.byArtist, .node m⟩ ∈ g.triples →
        ⟨m, Vocabulary.name, .literal (.plain name)⟩ ∉ g.triples) → titles = []) ∧
      readQuery? (songsForArtistText name) = some (.rows (songsForArtistQuery name)) ∧
      ∀ rest scope, readTextLiteral ⟨(Literal.plain name).write ++ ' ' :: '.' :: rest, scope⟩ =
        some (.plain name, ⟨' ' :: '.' :: rest, scope⟩) := by
  intro g
  have hplain := Graph.namesArePlain_of_ofTracks (Graph.ofTracks_filter_valid ts)
  have hperm : (sortedBy compare
      ((g.artistSongs.filter (·.artist = name)).map ArtistSong.title)).Perm
        ((g.creditedTo name).map fun credit => credit.2.1) := by
    rw [← Graph.map_title_filter_artistSongs]
    exact sortedBy_perm _ _
  refine ⟨_, songsForArtist_eq hplain name, pairwise_le_sortedBy _,
    ⟨g.creditedTo name, Graph.nodup_creditedTo, fun _ => Graph.mem_creditedTo, hperm⟩, ?_,
    readQuery?_songsForArtistText name, fun rest scope => readTextLiteral_write name⟩
  intro hnone
  have hempty : g.creditedTo name = [] := by
    apply List.eq_nil_iff_forall_not_mem.mpr
    intro credit hcredit
    obtain ⟨n, title, m, -, -, -, hartist, hname⟩ := Graph.mem_creditedTo.mp hcredit
    exact hnone n m hartist hname
  rw [hempty] at hperm
  exact hperm.eq_nil

end Catalog

end Songbook
