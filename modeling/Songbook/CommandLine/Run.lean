import Songbook.CommandLine.Arguments
import Songbook.Environment
import Songbook.Extraction
import Songbook.Service.Playlists
import Songbook.Session

/-!
# Running a command

A command finds its surroundings — an environment, an input, a service and a disk — and leaves
an exit code, what it printed and the disk. A query checks its request before it opens the
graph file, and reads the input only when an artist is to be chosen. An extraction checks its
settings before it asks the service for anything.
-/

namespace Songbook.CommandLine

/-- What a command finds when it starts. -/
structure Surroundings where
  environment : Environment := []
  input : List UInt8 := []
  service : Service.Replies := .unreachable
  disk : Disk

/-- What a command leaves. -/
structure Outcome where
  code : Nat
  /-- What was shown before the input was read. -/
  prompt : String := ""
  printed : String := ""
  err : String := ""
  disk : Disk

/-- Everything that a command puts out, in order. -/
def Outcome.out (o : Outcome) : String := o.prompt ++ o.printed

/-- The name and the version of the program. -/
def versionText : String := "playlist-rdf 0.1.0\n"

/-- How the program is used. -/
def usageText : String :=
  Text.lines
    ["Usage: playlist-rdf extract [--playlist-id ID] [-o FILE]",
     "       playlist-rdf query -q QUESTION [--min-duration M:SS] [-g FILE] [--format FORMAT]"]

/-- The line about a failure. -/
def failureText (e : Error) : String := "Error: " ++ e.message ++ "\n"

/-- Answer a question about the graph in a file. -/
def query (s : Surroundings) (question : Question) (threshold : Option String)
    (path : String) (format : Format) : Outcome :=
  let failed (prompt printed : String) (e : Error) : Outcome :=
    { code := 1, prompt, printed, err := failureText e, disk := s.disk }
  match Request.make question threshold format with
  | .error e => failed "" "" e
  | .ok request =>
    match Graph.load s.disk.tree path with
    | .error e => failed "" "" e
    | .ok g =>
      let (outcome, console) := request.runFrom g Prompt.select { unread := s.input }
      let prompt := console.chooser.shown
      let printed := console.printed
      match outcome with
      | .ok () => { code := 0, prompt, printed, disk := s.disk }
      | .error e => failed prompt printed e

/-- The directories from one up to the root. -/
def upwards (l : Location) : List Location :=
  (List.range (l.length + 1)).reverse.map l.take

/-- The content of the nearest file of variables, in the directory where the program runs or
above it. -/
def environmentFile? (t : FileTree) : Option ByteArray :=
  (upwards t.here).findSome? fun l =>
    match t.lookup (l ++ [".env"]) with
    | some (.file content) => some content
    | _ => none

/-- The environment with the variables of the file. -/
def fullEnvironment (s : Surroundings) : Environment :=
  match environmentFile? s.disk.tree with
  | some content => s.environment.loadFile content
  | none => s.environment

/-- Fetch a playlist and save its graph. -/
def extraction (s : Surroundings) (o : Overrides) : Disk.Action Report := do
  let settings ← Settings.make o (fullEnvironment s).get?
  Service.authorize s.service
  Extraction.extract (Service.fetch s.service settings.playlistId) settings.output

/-- Fetch a playlist, save its graph and print what was saved. -/
def extract (s : Surroundings) (o : Overrides) : Outcome :=
  match (extraction s o).run.run s.disk with
  | (.ok report, disk) => { code := 0, printed := Extraction.summary report, disk }
  | (.error e, disk) => { code := 1, err := failureText e, disk }

/-- Do what arguments ask for. -/
def run (s : Surroundings) (arguments : List String) : Outcome :=
  match readArguments arguments with
  | .help => { code := 0, printed := usageText, disk := s.disk }
  | .version => { code := 0, printed := versionText, disk := s.disk }
  | .misuse => { code := 2, err := usageText, disk := s.disk }
  | .command (.extract overrides) => extract s overrides
  | .command (.query question threshold path format) => query s question threshold path format

end Songbook.CommandLine
