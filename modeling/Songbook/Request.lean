import Songbook.Duration

/-!
# Requests

A request is one of the ten questions of the catalog, the form of the answer and, for the
question that needs one, a threshold. Requests are checked by `Request.make` before anything
else is done.
-/

namespace Songbook

/-- The questions that can be asked about a playlist. -/
inductive Question
  | duration
  | totalSongs
  | length
  | longest
  | shortest
  | longerThan
  | album
  | artist
  | byAppearance
  | byArtist
  deriving DecidableEq, Repr

namespace Question

/-- All questions. -/
def all : List Question :=
  [.duration, .totalSongs, .length, .longest, .shortest, .longerThan, .album, .artist,
    .byAppearance, .byArtist]

/-- The name by which the user asks a question. -/
def word : Question → String
  | duration => "duration"
  | totalSongs => "total_songs"
  | length => "length"
  | longest => "longest"
  | shortest => "shortest"
  | longerThan => "longer_than"
  | album => "album"
  | artist => "artist"
  | byAppearance => "by_appearance"
  | byArtist => "by_artist"

/-- The question with a name. -/
def ofWord? (w : String) : Option Question := all.find? (·.word == w)

end Question

/-- The forms in which an answer is printed. -/
inductive Format
  | text
  | json
  deriving DecidableEq, Repr

namespace Format

/-- The name by which the user asks for a form. -/
def word : Format → String
  | text => "text"
  | json => "json"

/-- The form with a name. -/
def ofWord? (w : String) : Option Format := [text, json].find? (·.word == w)

end Format

/-- A question with what is needed to answer it. -/
structure Request where
  question : Question
  /-- The length in seconds that songs are compared with. -/
  threshold : Option Nat := none
  format : Format := .text
  deriving DecidableEq, Repr

/-- Check a request. The question for longer songs needs a threshold that is a clock reading;
every other question ignores a threshold, whatever it is. -/
def Request.make (question : Question) (threshold : Option String) (format : Format) :
    Except Error Request :=
  match question, threshold with
  | .longerThan, some text => do
      let seconds ← Duration.readClock text
      return { question := .longerThan, threshold := some seconds, format }
  | .longerThan, none => .error (.input .missingThreshold)
  | other, _ => .ok { question := other, format }

end Songbook
