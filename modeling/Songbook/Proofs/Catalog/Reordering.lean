import Songbook.Proofs.Catalog.Credits
import Songbook.Proofs.Catalog.Totals

/-!
# Answers and the order of triples

A graph remembers the order in which its triples were inserted, and rows are found in this order.
The answers of the catalog do not show it: graphs with the same triples and plain names answer
every question in the same way.
-/

namespace Songbook

open Rdf Sparql

namespace Graph

variable {g h : Graph}

/-! ### What is found -/

theorem subjects_perm (hperm : g.triples.Perm h.triples) (property : Iri) (value : Term) :
    (g.subjects property value).Perm (h.subjects property value) :=
  (((List.reverse_perm _).trans hperm).trans (List.reverse_perm _).symm).filterMap _

theorem objects_perm (hperm : g.triples.Perm h.triples) (about : Term) (property : Iri) :
    (g.objects about property).Perm (h.objects about property) :=
  (((List.reverse_perm _).trans hperm).trans (List.reverse_perm _).symm).filterMap _

theorem recordings_perm (hperm : g.triples.Perm h.triples) : g.recordings.Perm h.recordings :=
  subjects_perm hperm _ _

theorem names_perm (hperm : g.triples.Perm h.triples) (about : Term) :
    (g.names about).Perm (h.names about) :=
  (objects_perm hperm about _).filterMap _

theorem lengths_perm (hperm : g.triples.Perm h.triples) (about : Term) :
    (g.lengths about).Perm (h.lengths about) :=
  (objects_perm hperm about _).filterMap _

theorem songs_perm (hperm : g.triples.Perm h.triples) : g.songs.Perm h.songs :=
  (recordings_perm hperm).flatMap fun r _ => (names_perm hperm r).flatMap fun _ _ =>
    (lengths_perm hperm r).map _

theorem allLengths_perm (hperm : g.triples.Perm h.triples) : g.allLengths.Perm h.allLengths :=
  (recordings_perm hperm).flatMap fun r _ => lengths_perm hperm r

theorem albumSongs_perm (hperm : g.triples.Perm h.triples) : g.albumSongs.Perm h.albumSongs :=
  (recordings_perm hperm).flatMap fun r _ => (names_perm hperm r).flatMap fun _ _ =>
    (objects_perm hperm r _).flatMap fun a _ => (names_perm hperm a).map _

theorem artistSongs_perm (hperm : g.triples.Perm h.triples) : g.artistSongs.Perm h.artistSongs :=
  (recordings_perm hperm).flatMap fun r _ => (names_perm hperm r).flatMap fun _ _ =>
    (objects_perm hperm r _).flatMap fun a _ => (names_perm hperm a).map _

theorem credits_perm (hperm : g.triples.Perm h.triples) : g.credits.Perm h.credits :=
  (recordings_perm hperm).flatMap fun r _ => (objects_perm hperm r _).flatMap fun a _ =>
    (names_perm hperm a).map _

theorem NamesArePlain.of_perm (hg : g.NamesArePlain) (hperm : g.triples.Perm h.triples) :
    h.NamesArePlain :=
  fun n o ho => hg n o (hperm.mem_iff.mpr ho)

theorem NamesArePlain.recordings (hg : g.NamesArePlain) : g.RecordingsHavePlainNames :=
  fun n o _ ho => hg n o ho

end Graph

namespace Catalog

/-! ### What is answered -/

/-- Two graphs of which every question has the same answer. -/
structure AnswersAlike (g h : Graph) : Prop where
  totalLength : totalLength g = totalLength h
  songCount : songCount g = songCount h
  songsByLength : songsByLength g = songsByLength h
  longestSong : longestSong g = longestSong h
  shortestSong : shortestSong g = shortestSong h
  songsLongerThan : ∀ threshold, songsLongerThan g threshold = songsLongerThan h threshold
  songsByAlbum : songsByAlbum g = songsByAlbum h
  songsByArtist : songsByArtist g = songsByArtist h
  artistsByAppearance : artistsByAppearance g = artistsByAppearance h
  allArtists : allArtists g = allArtists h
  songsForArtist : ∀ name, songsForArtist g name = songsForArtist h name

theorem answersAlike_of_perm {g h : Graph} (hperm : g.triples.Perm h.triples)
    (hg : g.NamesArePlain) : AnswersAlike g h := by
  have hh := hg.of_perm hperm
  have hcredits := Graph.credits_perm hperm
  constructor
  case totalLength =>
    rw [totalLength_eq, totalLength_eq, (Graph.allLengths_perm hperm).sum_nat]
  case songCount =>
    rw [songCount_eq, songCount_eq, (Graph.recordings_perm hperm).length_eq]
  case songsByLength =>
    rw [songsByLength_eq hg.recordings, songsByLength_eq hh.recordings,
      sortedBy_eq_of_perm (Graph.songs_perm hperm)]
  case longestSong =>
    rw [longestSong_eq hg.recordings, longestSong_eq hh.recordings,
      sortedBy_eq_of_perm (Graph.songs_perm hperm)]
  case shortestSong =>
    rw [shortestSong_eq hg.recordings, shortestSong_eq hh.recordings,
      sortedBy_eq_of_perm (Graph.songs_perm hperm)]
  case songsLongerThan =>
    intro threshold
    rw [songsLongerThan_eq hg.recordings, songsLongerThan_eq hh.recordings,
      sortedBy_eq_of_perm ((Graph.songs_perm hperm).filter _)]
  case songsByAlbum =>
    rw [songsByAlbum_eq hg, songsByAlbum_eq hh, sortedBy_eq_of_perm (Graph.albumSongs_perm hperm)]
  case songsByArtist =>
    rw [songsByArtist_eq hg, songsByArtist_eq hh,
      sortedBy_eq_of_perm (Graph.artistSongs_perm hperm)]
  case artistsByAppearance =>
    have hcounts : (g.credits.eraseDups.map fun credit =>
        (Int64.ofNat (g.credits.count credit), credit.2)).Perm
        (h.credits.eraseDups.map fun credit =>
          (Int64.ofNat (h.credits.count credit), credit.2)) := by
      simp only [hcredits.count_eq]
      exact (eraseDups_perm hcredits).map _
    rw [artistsByAppearance_eq hg, artistsByAppearance_eq hh, sortedBy_eq_of_perm hcounts]
  case allArtists =>
    rw [allArtists_eq hg, allArtists_eq hh,
      sortedBy_eq_of_perm (eraseDups_perm (hcredits.map Prod.snd))]
  case songsForArtist =>
    intro name
    have htitles := ((Graph.artistSongs_perm hperm).filter (·.artist = name)).map ArtistSong.title
    rw [songsForArtist_eq hg, songsForArtist_eq hh, sortedBy_eq_of_perm htitles]

end Catalog

end Songbook
