import Songbook.Number.Unsigned
import Songbook.Sparql.Select
import Songbook.Text.Lines

/-!
# The catalog of questions

Each question about a playlist is a query text that is answered by a graph. The rows of the
answer are then read column by column: a title or a name must be a literal, and a number must
be a whole number that is not negative. The first row that fails decides the failure.
-/

namespace Songbook

/-- A title and a length in whole seconds. -/
structure Song where
  title : String
  seconds : Nat
  deriving DecidableEq, Repr

/-- A title and the name of its album. -/
structure AlbumSong where
  album : String
  title : String
  deriving DecidableEq, Repr

/-- A title and the name of its artist. -/
structure ArtistSong where
  artist : String
  title : String
  deriving DecidableEq, Repr

/-- The name of an artist and the number of songs. -/
structure ArtistCount where
  artist : String
  songs : Nat
  deriving DecidableEq, Repr

namespace Catalog

open Sparql

/-- The text in a column of a row. -/
def textIn (row : Row) (column : String) : Except Error String :=
  match row.get? (.named column) with
  | some (.literal l) => .ok l.text
  | some t => .error (.result (.notLiteral column (String.ofList t.write)))
  | none => .error (.result (.unbound column))

/-- The number in a column of a row. -/
def numberIn (row : Row) (column : String) : Except Error Nat := do
  let text ← textIn row column
  match Unsigned.read? text.toList with
  | some n => return n
  | none => throw (.result (.notNumber column text))

/-- The declarations in front of every query. -/
def prologue : List String :=
  ["PREFIX schema: <http://schema.org/>",
   "PREFIX xsd: <http://www.w3.org/2001/XMLSchema#>"]

/-- The patterns of recordings with a title and a length, up to the conditions. -/
def songLines : List String :=
  prologue ++
    ["SELECT ?songTitle ?duration",
     "WHERE \x7b",
     "?track a schema:MusicRecording ;",
     "schema:name ?songTitle ;",
     "schema:duration ?duration ."]

/-- The condition that a length counts: it is a whole number that is not negative. -/
def countsLine : String := "FILTER (DATATYPE(?duration) = xsd:integer && ?duration >= 0)"

/-- Longest first, and songs of one length by title. -/
def longestFirstLines : List String := ["\x7d", "ORDER BY DESC(?duration) ASC(?songTitle)"]

/-- Shortest first, and songs of one length by title backwards. -/
def shortestFirstLines : List String := ["\x7d", "ORDER BY ASC(?duration) DESC(?songTitle)"]

/-- The patterns of recordings with an artist who has a name. -/
def creditLines : List String :=
  ["?track a schema:MusicRecording ;",
   "schema:byArtist ?artist .",
   "?artist schema:name ?artistName ."]

/-- The query for the sum of all lengths. -/
def totalLengthText : String :=
  Text.lines <| prologue ++
    ["SELECT (SUM(?duration) AS ?total)",
     "WHERE \x7b",
     "?track a schema:MusicRecording ;",
     "schema:duration ?duration .",
     countsLine,
     "\x7d"]

/-- The query for the number of recordings. -/
def songCountText : String :=
  Text.lines <| prologue ++
    ["SELECT (COUNT(DISTINCT ?track) AS ?totalSongs)",
     "WHERE \x7b",
     "?track a schema:MusicRecording .",
     "\x7d"]

/-- The query for all songs by length. -/
def songsByLengthText : String := Text.lines (songLines ++ countsLine :: longestFirstLines)

/-- The query for the longest song. -/
def longestSongText : String :=
  Text.lines (songLines ++ countsLine :: longestFirstLines ++ ["LIMIT 1"])

/-- The query for the shortest song. -/
def shortestSongText : String :=
  Text.lines (songLines ++ countsLine :: shortestFirstLines ++ ["LIMIT 1"])

/-- The query for the songs that are longer than a threshold. -/
def songsLongerThanText (threshold : Nat) : String :=
  Text.lines <| songLines ++
    countsLine :: ("FILTER (?duration > " ++ toString threshold ++ ")") :: longestFirstLines

/-- The query for titles by album. -/
def songsByAlbumText : String :=
  Text.lines <| prologue ++
    ["SELECT ?albumTitle ?songTitle",
     "WHERE \x7b",
     "?track a schema:MusicRecording ;",
     "schema:name ?songTitle ;",
     "schema:inAlbum ?album .",
     "?album schema:name ?albumTitle .",
     "\x7d",
     "ORDER BY ?albumTitle ?songTitle"]

/-- The query for titles by artist. -/
def songsByArtistText : String :=
  Text.lines <| prologue ++
    ["SELECT ?artistName ?songTitle",
     "WHERE \x7b",
     "?track a schema:MusicRecording ;",
     "schema:name ?songTitle ;",
     "schema:byArtist ?artist .",
     "?artist schema:name ?artistName .",
     "\x7d",
     "ORDER BY ?artistName ?songTitle"]

/-- The query for the number of songs of each artist. -/
def artistsByAppearanceText : String :=
  Text.lines <| prologue ++
    ["SELECT ?artistName (COUNT(?track) AS ?numSongs)", "WHERE \x7b"] ++ creditLines ++
    ["\x7d",
     "GROUP BY ?artist ?artistName",
     "ORDER BY DESC(?numSongs) ASC(?artistName)"]

/-- The query for the names of all artists. -/
def allArtistsText : String :=
  Text.lines <| prologue ++
    ["SELECT DISTINCT ?artistName", "WHERE \x7b"] ++ creditLines ++
    ["\x7d", "ORDER BY ASC(?artistName)"]

/-- The query for the titles of an artist, whose name is written as a literal. -/
def songsForArtistText (artist : String) : String :=
  Text.lines <| prologue ++
    ["SELECT ?songTitle",
     "WHERE \x7b",
     "?track a schema:MusicRecording ;",
     "schema:name ?songTitle ;",
     "schema:byArtist ?artist .",
     "?artist schema:name " ++ String.ofList (Rdf.Literal.plain artist).write ++ " .",
     "\x7d",
     "ORDER BY ASC(?songTitle)"]

/-- A row with a title and a length. -/
def readSong (row : Row) : Except Error Song := do
  let title ← textIn row "songTitle"
  let seconds ← numberIn row "duration"
  return { title, seconds }

/-- The songs that answer a query text. -/
def songs (g : Graph) (text : String) : Except Error (List Song) := do
  (← g.select text).mapM readSong

/-- The sum of all lengths that count, in seconds. A sum that cannot be represented is missing
from the answer and shown as zero. -/
def totalLength (g : Graph) : Except Error Nat := do
  match ← g.select totalLengthText with
  | row :: _ => if (row.get? (.named "total")).isSome then numberIn row "total" else return 0
  | [] => return 0

/-- The number of recordings. -/
def songCount (g : Graph) : Except Error Nat := do
  match ← g.select songCountText with
  | row :: _ => numberIn row "totalSongs"
  | [] => return 0

/-- All songs whose length counts, the longest first. -/
def songsByLength (g : Graph) : Except Error (List Song) := songs g songsByLengthText

/-- The longest song, if there is one. -/
def longestSong (g : Graph) : Except Error (Option Song) := do
  return (← songs g longestSongText).head?

/-- The shortest song, if there is one. -/
def shortestSong (g : Graph) : Except Error (Option Song) := do
  return (← songs g shortestSongText).head?

/-- The songs that are longer than a threshold in seconds, the longest first. -/
def songsLongerThan (g : Graph) (threshold : Nat) : Except Error (List Song) :=
  songs g (songsLongerThanText threshold)

/-- All titles with their albums, by album and title. -/
def songsByAlbum (g : Graph) : Except Error (List AlbumSong) := do
  (← g.select songsByAlbumText).mapM fun row => do
    let album ← textIn row "albumTitle"
    let title ← textIn row "songTitle"
    return { album, title }

/-- All titles with their artists, by artist and title. -/
def songsByArtist (g : Graph) : Except Error (List ArtistSong) := do
  (← g.select songsByArtistText).mapM fun row => do
    let artist ← textIn row "artistName"
    let title ← textIn row "songTitle"
    return { artist, title }

/-- The number of songs of each artist, the most frequent first. Artists are told apart by
their nodes, so two artists with one name are listed separately. -/
def artistsByAppearance (g : Graph) : Except Error (List ArtistCount) := do
  (← g.select artistsByAppearanceText).mapM fun row => do
    let artist ← textIn row "artistName"
    let songs ← numberIn row "numSongs"
    return { artist, songs }

/-- The names of all artists, in ascending order. -/
def allArtists (g : Graph) : Except Error (List String) := do
  (← g.select allArtistsText).mapM (textIn · "artistName")

/-- The titles of all songs by artists with a name, in ascending order. -/
def songsForArtist (g : Graph) (artist : String) : Except Error (List String) := do
  (← g.select (songsForArtistText artist)).mapM (textIn · "songTitle")

end Catalog

end Songbook
