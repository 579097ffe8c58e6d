import Songbook.Catalog
import Songbook.Proofs.Sparql.Matching

/-!
# The queries of the catalog

Each question of the catalog is a text, and what it asks is the query that the text spells. The
queries are put together from a few patterns about recordings.
-/

namespace Songbook.Catalog

open Rdf Sparql

/-! ### Unknowns and patterns -/

/-- What a recording is called `?track` in every query. -/
def track : Variable := .named "track"

def songTitle : Variable := .named "songTitle"

def duration : Variable := .named "duration"

def album : Variable := .named "album"

def albumTitle : Variable := .named "albumTitle"

def artist : Variable := .named "artist"

def artistName : Variable := .named "artistName"

/-- Something is a recording. -/
def isRecording : Pattern :=
  .having track Vocabulary.rdfType (.known (.node (.iri Vocabulary.musicRecording)))

/-- A recording has a title. -/
def hasTitle : Pattern := .having track Vocabulary.name (.unknown songTitle)

/-- A recording has a length. -/
def hasLength : Pattern := .having track Vocabulary.duration (.unknown duration)

/-- A recording is on an album. -/
def isOnAlbum : Pattern := .having track Vocabulary.inAlbum (.unknown album)

/-- An album has a name. -/
def albumHasName : Pattern := .having album Vocabulary.name (.unknown albumTitle)

/-- A recording is by an artist. -/
def isByArtist : Pattern := .having track Vocabulary.byArtist (.unknown artist)

/-- An artist has a name. -/
def artistHasName : Pattern := .having artist Vocabulary.name (.unknown artistName)

/-! ### Queries -/

/-- The condition that a length counts: it is a whole number that is not negative. -/
def countsAsLength : Expression :=
  .both
    (.compare (.datatype (.unknown duration)) .equal (.term (.node (.iri Vocabulary.xsdInteger))))
    (.compare (.unknown duration) .atLeast (.term (.literal (.integer 0))))

/-- The order of songs from the longest to the shortest, and by title. -/
def longestFirst : List (Direction × Expression) :=
  [(.descending, .unknown duration), (.ascending, .unknown songTitle)]

/-- The order of songs from the shortest to the longest, and by title backwards. -/
def shortestFirst : List (Direction × Expression) :=
  [(.ascending, .unknown duration), (.descending, .unknown songTitle)]

/-- Songs whose length counts and fulfils further conditions. -/
def songQuery (conditions : List Expression) (orderBy : List (Direction × Expression))
    (limit : Option Nat) : Query where
  columns := [{ name := songTitle }, { name := duration }]
  patterns := [isRecording, hasTitle, hasLength]
  conditions := countsAsLength :: conditions
  orderBy := orderBy
  limit := limit

/-- The condition that a length is above a threshold. -/
def isLongerThan (threshold : Nat) : Expression :=
  .compare (.unknown duration) .above
    (.term (.literal (.ofLexical (toString threshold) Vocabulary.xsdInteger)))

/-- The number that is computed first from the groups of a query. -/
def computed : Variable := .fresh 0

/-- One row for each group of rows, with one number that is computed from the group. -/
def groupedBy (key : List Variable) (a : Aggregate) : Grouping :=
  { key, aggregates := [(computed, a)] }

/-- The sum of all lengths that count. -/
def totalLengthQuery : Query where
  columns := [{ name := .named "total", source := some (.unknown computed) }]
  patterns := [isRecording, hasLength]
  conditions := [countsAsLength]
  grouping := some (groupedBy [] (.sum (.unknown duration)))

/-- The number of recordings. -/
def songCountQuery : Query where
  columns := [{ name := .named "totalSongs", source := some (.unknown computed) }]
  patterns := [isRecording]
  grouping := some (groupedBy [] (.count true (.unknown track)))

/-- Titles with the names of albums. -/
def songsByAlbumQuery : Query where
  columns := [{ name := albumTitle }, { name := songTitle }]
  patterns := [isRecording, hasTitle, isOnAlbum, albumHasName]
  orderBy := [(.ascending, .unknown albumTitle), (.ascending, .unknown songTitle)]

/-- Titles with the names of artists. -/
def songsByArtistQuery : Query where
  columns := [{ name := artistName }, { name := songTitle }]
  patterns := [isRecording, hasTitle, isByArtist, artistHasName]
  orderBy := [(.ascending, .unknown artistName), (.ascending, .unknown songTitle)]

/-- Names of artists with the number of songs of each artist. -/
def artistsByAppearanceQuery : Query where
  columns := [{ name := artistName },
    { name := .named "numSongs", source := some (.unknown computed) }]
  patterns := [isRecording, isByArtist, artistHasName]
  grouping := some (groupedBy [artist, artistName] (.count false (.unknown track)))
  orderBy := [(.descending, .unknown (.named "numSongs")), (.ascending, .unknown artistName)]

/-- Names of artists without repetitions. -/
def allArtistsQuery : Query where
  columns := [{ name := artistName }]
  repetition := .removed
  patterns := [isRecording, isByArtist, artistHasName]
  orderBy := [(.ascending, .unknown artistName)]

/-- Titles of the recordings by artists with a name. -/
def songsForArtistQuery (name : String) : Query where
  columns := [{ name := songTitle }]
  patterns := [isRecording, hasTitle, isByArtist,
    .having artist Vocabulary.name (.known (.literal (.plain name)))]
  orderBy := [(.ascending, .unknown songTitle)]

end Songbook.Catalog
