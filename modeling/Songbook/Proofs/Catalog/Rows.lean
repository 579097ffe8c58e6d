import Songbook.Proofs.Catalog.Queries

/-!
# The rows of the catalog

The patterns of each question are matched in the order in which they are written, and every
pattern leads on from a thing that is known already. So the rows of a question go through the
recordings of a graph, and for each of them through the values of its properties.
-/

namespace Songbook

open Rdf Sparql Catalog

/-- The things that a graph calls recordings, the newest first. -/
def Graph.recordings (g : Graph) : List Term :=
  g.subjects Vocabulary.rdfType (.node (.iri Vocabulary.musicRecording))

/-- The text of a plain literal. -/
def plainText? : Term → Option String
  | .literal (.plain s) => some s
  | _ => none

/-- The names of a thing that are plain texts, the newest first. -/
def Graph.names (g : Graph) (about : Term) : List String :=
  (g.objects about Vocabulary.name).filterMap plainText?

/-- The text of a literal of any kind. -/
def literalText? : Term → Option String
  | .literal l => some l.text
  | _ => none

/-- The names of a thing that are literals of any kind, the newest first. -/
def Graph.texts (g : Graph) (about : Term) : List String :=
  (g.objects about Vocabulary.name).filterMap literalText?

namespace Catalog

/-! ### Questions with a condition -/

theorem rowsOf_songs (g : Graph) :
    rowsOf g [isRecording, hasTitle, hasLength] =
      g.recordings.flatMap fun r => (g.objects r Vocabulary.name).flatMap fun t =>
        (g.objects r Vocabulary.duration).flatMap fun d =>
          [[(track, r), (songTitle, t), (duration, d)]] := by
  rw [rowsOf_eq_follow 1000000 rfl, isRecording, follow_known rfl]
  refine List.flatMap_congr fun r _ => ?_
  rw [hasTitle, follow_values rfl rfl]
  refine List.flatMap_congr fun t _ => ?_
  rw [hasLength, follow_values rfl rfl]
  rfl

theorem rowsOf_lengths (g : Graph) :
    rowsOf g [isRecording, hasLength] =
      g.recordings.flatMap fun r => (g.objects r Vocabulary.duration).flatMap fun d =>
        [[(track, r), (duration, d)]] := by
  rw [rowsOf_eq_follow 100000 rfl, isRecording, follow_known rfl]
  refine List.flatMap_congr fun r _ => ?_
  rw [hasLength, follow_values rfl rfl]
  rfl

/-! ### Questions without a condition -/

theorem matching_eq_rowsOf {q : Query} (hgraphs : q.graphs = []) (hconditions : q.conditions = [])
    (g : Graph) : q.matching g = rowsOf g q.patterns := by
  simp [Query.matching, Query.asked, hgraphs, hconditions]

theorem matching_songCount (g : Graph) :
    songCountQuery.matching g = g.recordings.flatMap fun r => [[(track, r)]] := by
  rw [matching_eq_rowsOf rfl rfl, rowsOf_eq_follow 10000 rfl, songCountQuery, isRecording,
    follow_known rfl]
  rfl

theorem matching_songsByAlbum (g : Graph) :
    songsByAlbumQuery.matching g =
      g.recordings.flatMap fun r => (g.objects r Vocabulary.name).flatMap fun t =>
        (g.objects r Vocabulary.inAlbum).flatMap fun a =>
          (g.objects a Vocabulary.name).flatMap fun n =>
            [[(track, r), (songTitle, t), (album, a), (albumTitle, n)]] := by
  rw [matching_eq_rowsOf rfl rfl, rowsOf_eq_follow 10000000 rfl, songsByAlbumQuery, isRecording,
    follow_known rfl]
  refine List.flatMap_congr fun r _ => ?_
  rw [hasTitle, follow_values rfl rfl]
  refine List.flatMap_congr fun t _ => ?_
  rw [isOnAlbum, follow_values rfl rfl]
  refine List.flatMap_congr fun a _ => ?_
  rw [albumHasName, follow_values rfl rfl]
  rfl

theorem matching_songsByArtist (g : Graph) :
    songsByArtistQuery.matching g =
      g.recordings.flatMap fun r => (g.objects r Vocabulary.name).flatMap fun t =>
        (g.objects r Vocabulary.byArtist).flatMap fun a =>
          (g.objects a Vocabulary.name).flatMap fun n =>
            [[(track, r), (songTitle, t), (artist, a), (artistName, n)]] := by
  rw [matching_eq_rowsOf rfl rfl, rowsOf_eq_follow 10000000 rfl, songsByArtistQuery, isRecording,
    follow_known rfl]
  refine List.flatMap_congr fun r _ => ?_
  rw [hasTitle, follow_values rfl rfl]
  refine List.flatMap_congr fun t _ => ?_
  rw [isByArtist, follow_values rfl rfl]
  refine List.flatMap_congr fun a _ => ?_
  rw [artistHasName, follow_values rfl rfl]
  rfl

theorem rowsOf_credits (g : Graph) :
    rowsOf g [isRecording, isByArtist, artistHasName] =
      g.recordings.flatMap fun r => (g.objects r Vocabulary.byArtist).flatMap fun a =>
        (g.objects a Vocabulary.name).flatMap fun n =>
          [[(track, r), (artist, a), (artistName, n)]] := by
  rw [rowsOf_eq_follow 1000000 rfl, isRecording, follow_known rfl]
  refine List.flatMap_congr fun r _ => ?_
  rw [isByArtist, follow_values rfl rfl]
  refine List.flatMap_congr fun a _ => ?_
  rw [artistHasName, follow_values rfl rfl]
  rfl

/-- The artists are listed by the rows from which their appearances are counted. -/
theorem matching_allArtists (g : Graph) :
    allArtistsQuery.matching g = rowsOf g [isRecording, isByArtist, artistHasName] :=
  matching_eq_rowsOf rfl rfl g

theorem matching_artistsByAppearance (g : Graph) :
    artistsByAppearanceQuery.matching g = rowsOf g [isRecording, isByArtist, artistHasName] :=
  matching_eq_rowsOf rfl rfl g

theorem matching_songsForArtist (g : Graph) (name : String) :
    (songsForArtistQuery name).matching g =
      g.recordings.flatMap fun r => (g.objects r Vocabulary.name).flatMap fun t =>
        (g.objects r Vocabulary.byArtist).flatMap fun a =>
          ((g.objects a Vocabulary.name).filter (.literal (.plain name) == ·)).flatMap fun _ =>
            [[(track, r), (songTitle, t), (artist, a)]] := by
  rw [matching_eq_rowsOf rfl rfl, rowsOf_eq_follow 1000000 rfl, songsForArtistQuery, isRecording,
    follow_known rfl]
  refine List.flatMap_congr fun r _ => ?_
  rw [hasTitle, follow_values rfl rfl]
  refine List.flatMap_congr fun t _ => ?_
  rw [isByArtist, follow_values rfl rfl]
  refine List.flatMap_congr fun a _ => ?_
  rw [follow_check rfl]
  rfl

end Catalog

end Songbook
