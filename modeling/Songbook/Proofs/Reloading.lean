import Songbook.Proofs.Catalog.Reordering
import Songbook.Proofs.Tracks

/-!
# Graphs of tracks are reloaded unchanged

Whatever the tracks are, the document of their graph can be read, and it holds the triples of the
graph and no others. So nothing that can be asked tells a reloaded graph from the graph that was
saved.
-/

namespace Songbook

open Rdf

namespace Graph

/-- All names in a graph of tracks are plain texts. -/
theorem namesArePlain_of_ofTracks {g : Graph} {ts : List Track} (h : ofTracks ts = .ok g) :
    g.NamesArePlain := by
  obtain ⟨-, rfl⟩ := ofTracks_eq_ok_iff.mp h
  intro n o ho
  obtain ⟨t, -, ht⟩ := List.mem_flatMap.mp (mem_ofTriples.mp ho)
  obtain ⟨e, -, -, rfl⟩ := Track.mem_described_name.mp ht
  exact ⟨e.name, rfl⟩

/-- The graph of any tracks is read back from its document, and loaded from the file that it was
saved to, with exactly its triples, and the graph that was read answers like it. -/
theorem reloads_of_ofTracks {g : Graph} {ts : List Track} (h : ofTracks ts = .ok g) :
    ∃ g', ofDocument g.document.toUTF8 = .ok g' ∧ g'.triples.Perm g.triples ∧ g'.size = g.size ∧
      Catalog.AnswersAlike g' g ∧
      ∀ (path : String) (d d' : Disk), (g.save path).run.run d = (.ok (), d') →
        load d'.tree path = .ok g' := by
  have hperm := g.reversed_perm
  have hplain := (namesArePlain_of_ofTracks h).of_perm hperm.symm
  exact ⟨g.reversed, ofDocument_of_ofTracks h, hperm, hperm.length_eq,
    Catalog.answersAlike_of_perm hperm hplain, fun path d d' hsave => load_of_ofTracks h hsave⟩

/-- A track whose names hold what documents escape, and whose address lies under the prefix of the
vocabulary. -/
def awkwardTrack : Track :=
  { address := "http://schema.org/a.b-c?d=(e)#"
    name := "say \"hi\"\\\n\t"
    millis := 18446744073709551615
    artist := ⟨"http://www.spotify.com/ontologies/x'", "é\x01"⟩
    album := ⟨"spotify:album:1", ""⟩ }

/-- Escapes and short forms are undone. -/
theorem reloads_awkwardTrack :
    ∃ g g', ofTracks [awkwardTrack] = .ok g ∧ ofDocument g.document.toUTF8 = .ok g' ∧
      g'.triples.Perm g.triples ∧ Catalog.AnswersAlike g' g := by
  have h := ofTracks_eq_ok_iff.mpr
    ⟨show ∀ t ∈ [awkwardTrack], t.Valid by decide +kernel, rfl⟩
  obtain ⟨g', hread, hperm, -, halike, -⟩ := reloads_of_ofTracks h
  exact ⟨_, g', h, hread, hperm, halike⟩

end Graph

end Songbook
