import Songbook.Catalog
import Songbook.Duration
import Songbook.Json.Printer
import Songbook.Request
import Songbook.Text.Lines

/-!
# Sessions

A session answers one request from a graph. It works on a console, which collects what is
printed and holds the state of whatever chooses an artist, for instance a prompt. An answer is
computed first and then printed as text or as JSON.

## Main definitions

* `Answer` — what a request is answered with, with its two forms `Answer.text` and
  `Answer.document`.
* `Session` — a computation that can fail and that keeps what was printed before the failure.
* `Request.run` — the session of a request.
-/

namespace Songbook

/-- The two ends of the list of songs by length. -/
inductive Extreme
  | longest
  | shortest
  deriving DecidableEq, Repr

/-- The word for an end of the list in an answer. -/
def Extreme.word : Extreme → String
  | longest => "Longest"
  | shortest => "Shortest"

/-- What a request is answered with. -/
inductive Answer
  | totalLength (seconds : Nat)
  | songCount (count : Nat)
  | songs (rows : List Song)
  | extreme (which : Extreme) (song : Option Song)
  | albums (rows : List AlbumSong)
  | credits (rows : List ArtistSong)
  | appearances (rows : List ArtistCount)
  /-- There was no artist to choose from. -/
  | noArtists
  /-- No artist was chosen. -/
  | noMatch
  | songsBy (artist : String) (titles : List String)
  deriving DecidableEq, Repr

namespace Answer

/-- A line for each row, or a remark when there is no row. -/
def rowLines {α : Type} (line : α → String) : List α → List String
  | [] => ["No results."]
  | rows => rows.map line

/-- A song with its length. -/
def songLine (s : Song) : String := s.title ++ ": " ++ Duration.clock s.seconds

/-- A song with its album. -/
def albumLine (r : AlbumSong) : String := r.album ++ ": " ++ r.title

/-- A song with its artist. -/
def creditLine (r : ArtistSong) : String := r.artist ++ ": " ++ r.title

/-- An artist with the number of songs. -/
def appearanceLine (r : ArtistCount) : String :=
  r.artist ++ ": " ++ toString r.songs ++ " songs"

/-- The song at one end of the list. -/
def extremeLine (which : Extreme) (s : Song) : String :=
  which.word ++ " Song: " ++ s.title ++ ", Duration: " ++ Duration.clock s.seconds

/-- The lines of an answer. -/
def textLines : Answer → List String
  | totalLength seconds => ["Total Playlist Duration: " ++ Duration.inWords seconds]
  | songCount count => ["Total Number of Songs: " ++ toString count]
  | songs rows => rowLines songLine rows
  | extreme which song => rowLines (extremeLine which) song.toList
  | albums rows => rowLines albumLine rows
  | credits rows => rowLines creditLine rows
  | appearances rows => rowLines appearanceLine rows
  | noArtists => ["No artists found."]
  | noMatch => ["No artist matches the answer given."]
  | songsBy artist titles => ("Songs by " ++ artist ++ ":") :: titles.map (" - " ++ ·)

/-- The form of an answer that people read. -/
def text (a : Answer) : String := Text.lines a.textLines

/-- A song as an object. -/
def songJson (s : Song) : Json :=
  .object [("title", .text s.title), ("seconds", .integer s.seconds)]

/-- A song with its album as an object. -/
def albumJson (r : AlbumSong) : Json :=
  .object [("album", .text r.album), ("title", .text r.title)]

/-- A song with its artist as an object. -/
def creditJson (r : ArtistSong) : Json :=
  .object [("artist", .text r.artist), ("title", .text r.title)]

/-- An artist with the number of songs as an object. -/
def appearanceJson (r : ArtistCount) : Json :=
  .object [("artist", .text r.artist), ("songs", .integer r.songs)]

/-- The document of an answer. Two remarks have none and are printed as text in either form. -/
def document? : Answer → Option Json
  | totalLength seconds =>
      some (.object
        [("formatted", .text (Duration.clock seconds)), ("total_seconds", .integer seconds)])
  | songCount count => some (.object [("total_songs", .integer count)])
  | songs rows => some (.array (rows.map songJson))
  | extreme _ song => some ((song.map songJson).getD .null)
  | albums rows => some (.array (rows.map albumJson))
  | credits rows => some (.array (rows.map creditJson))
  | appearances rows => some (.array (rows.map appearanceJson))
  | noArtists => none
  | noMatch => none
  | songsBy artist titles =>
      some (.object [("artist", .text artist), ("songs", .array (titles.map .text))])

/-- An answer in a form. -/
def inFormat (a : Answer) : Format → String
  | .text => a.text
  | .json =>
    match a.document? with
    | some document => document.pretty ++ "\n"
    | none => a.text

end Answer

/-- What has been printed, and the state of what chooses an artist. -/
structure Console (σ : Type) where
  printed : String := ""
  chooser : σ

/-- A computation on a console that can fail. What was printed before a failure stays. -/
abbrev Session (σ : Type) := ExceptT Error (StateM (Console σ))

/-- A way to choose an artist of a list by its position. -/
abbrev Chooser (σ : Type) := List String → σ → Except Error (Option Nat) × σ

namespace Session

variable {σ : Type}

/-- Print a text. -/
def print (s : String) : Session σ Unit :=
  modify fun c => { c with printed := c.printed ++ s }

/-- Let an artist of a list be chosen. -/
def choose (chooser : Chooser σ) (artists : List String) : Session σ (Option Nat) := do
  let c ← get
  let (choice, next) := chooser artists c.chooser
  set { c with chooser := next }
  choice

/-- The songs of an artist who is chosen among all artists. Nothing is chosen when there are
no artists, and a choice that is no position of the list counts as no choice. -/
def songsOfChosen (g : Graph) (chooser : Chooser σ) : Session σ Answer := do
  let artists ← Catalog.allArtists g
  if artists.isEmpty then return .noArtists
  let choice ← choose chooser artists
  match choice.bind (artists[·]?) with
  | none => return .noMatch
  | some artist => return .songsBy artist (← Catalog.songsForArtist g artist)

end Session

namespace Request

variable {σ : Type}

/-- The answer to a request. -/
def answer (g : Graph) (r : Request) (chooser : Chooser σ) : Session σ Answer := do
  match r.question with
  | .duration => return .totalLength (← Catalog.totalLength g)
  | .totalSongs => return .songCount (← Catalog.songCount g)
  | .length => return .songs (← Catalog.songsByLength g)
  | .longest => return .extreme .longest (← Catalog.longestSong g)
  | .shortest => return .extreme .shortest (← Catalog.shortestSong g)
  | .longerThan =>
    match r.threshold with
    | none => throw (.input .missingThreshold)
    | some seconds => return .songs (← Catalog.songsLongerThan g seconds)
  | .album => return .albums (← Catalog.songsByAlbum g)
  | .artist => return .credits (← Catalog.songsByArtist g)
  | .byAppearance => return .appearances (← Catalog.artistsByAppearance g)
  | .byArtist => Session.songsOfChosen g chooser

/-- Answer a request and print the answer in its form. -/
def run (g : Graph) (r : Request) (chooser : Chooser σ) : Session σ Unit := do
  let a ← r.answer g chooser
  Session.print (a.inFormat r.format)

/-- The outcome of a request on a fresh console, and the console afterwards. -/
def runFrom (g : Graph) (r : Request) (chooser : Chooser σ) (start : σ) :
    Except Error Unit × Console σ :=
  (r.run g chooser).run.run { chooser := start }

end Request

end Songbook
