import Songbook.Duration
import Songbook.GraphFile
import Songbook.Text.Lines
import Songbook.Track

/-!
# Extracting a playlist

The records of a playlist become tracks, the tracks a graph, and the graph is saved. A record
that is no complete track is skipped and counted. Nothing is saved when the playlist could not
be fetched.
-/

namespace Songbook

/-- What an extraction did. -/
structure Report where
  playlistName : String
  items : Nat
  written : Nat
  skipped : Nat
  triples : Nat
  output : String
  /-- The tracks that were saved, in the order of the playlist. -/
  tracks : List Track
  deriving DecidableEq, Repr

namespace Extraction

/-- The tracks among records. -/
def tracksOf (records : List Record) : List Track :=
  records.filterMap fun r => r.toTrack.toOption

/-- The number of records that are no tracks. -/
def skippedIn (records : List Record) : Nat :=
  records.countP fun r => r.toTrack.toOption.isNone

/-- Save the graph of a playlist, if it could be fetched, at a path. -/
def extract (source : Except Error Playlist) (output : String) : Disk.Action Report := do
  let playlist ← source
  let tracks := tracksOf playlist.records
  let graph ← Graph.ofTracks tracks
  graph.save output
  return {
    playlistName := playlist.name
    items := playlist.records.length
    written := tracks.length
    skipped := skippedIn playlist.records
    triples := graph.size
    output
    tracks }

/-- The lines about a track. -/
def trackLines (t : Track) : List String :=
  ["Track Name: " ++ t.name, "Artist: " ++ t.artist.name, "Album: " ++ t.album.name,
    "Duration: " ++ Duration.clockOfMillis t.millis.toNat, "---"]

/-- The lines about all tracks. -/
def listing (tracks : List Track) : String := Text.lines (tracks.flatMap trackLines)

/-- A line about skipped items, if there are any. -/
def skippedLines (skipped : Nat) : List String :=
  if skipped = 0 then []
  else ["Skipped " ++ toString skipped ++ " items without complete track data"]

/-- What is printed about an extraction. -/
def summary (r : Report) : String :=
  Text.lines ["Playlist Name: " ++ r.playlistName, "Total Tracks: " ++ toString r.items] ++
    listing r.tracks ++
    Text.lines (skippedLines r.skipped ++ ["RDF data generated and saved to " ++ r.output])

end Extraction

end Songbook
