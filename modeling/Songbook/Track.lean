import Songbook.Error
import Songbook.Graph

/-!
# Tracks and records

A record is what a music service says about one item of a playlist, with any part missing. A
track is a record that turned out complete: its own address, that of its first artist and that
of its album are absolute identifiers, and its length is not negative. In a graph a track is
seven triples.
-/

namespace Songbook

open Rdf

/-- An artist or an album: an address and a name. -/
structure Entity where
  address : String
  name : String
  deriving DecidableEq, Repr

/-- One song of a playlist, with its first artist only. -/
structure Track where
  address : String
  name : String
  /-- The length in milliseconds. -/
  millis : UInt64
  artist : Entity
  album : Entity
  deriving DecidableEq, Repr

/-- What a service says about an artist or an album. Local files have no address. -/
structure EntityRecord where
  address : Option String := none
  name : String := ""
  deriving DecidableEq, Repr

/-- What a service says about one item of a playlist. -/
structure Record where
  address : Option String := none
  name : String := ""
  /-- The length in milliseconds. -/
  millis : Option Int64 := none
  artists : List EntityRecord := []
  album : Option EntityRecord := none
  deriving DecidableEq, Repr

/-- A named list of records, in the order of the playlist. -/
structure Playlist where
  name : String
  records : List Record
  deriving DecidableEq, Repr

namespace Track

/-- The length in whole seconds; what is left below a second is dropped. -/
def seconds (t : Track) : Nat := t.millis.toNat / 1000

/-- The triples of a track whose three addresses are identifiers. -/
def triplesWith (t : Track) (track artist album : Iri) : List Triple :=
  [⟨.iri track, Vocabulary.rdfType, .node (.iri Vocabulary.musicRecording)⟩,
   ⟨.iri track, Vocabulary.name, .literal (.plain t.name)⟩,
   ⟨.iri track, Vocabulary.duration,
    .literal (.ofLexical (toString t.seconds) Vocabulary.xsdInteger)⟩,
   ⟨.iri track, Vocabulary.byArtist, .node (.iri artist)⟩,
   ⟨.iri artist, Vocabulary.name, .literal (.plain t.artist.name)⟩,
   ⟨.iri track, Vocabulary.inAlbum, .node (.iri album)⟩,
   ⟨.iri album, Vocabulary.name, .literal (.plain t.album.name)⟩]

/-- The identifier that an address is. -/
def identifier (address : String) : Except Error Iri :=
  match Iri.ofString? address with
  | some i => .ok i
  | none => .error (.iri address)

/-- The triples that describe a track, its artist and its album. -/
def triples (t : Track) : Except Error (List Triple) := do
  let track ← identifier t.address
  let artist ← identifier t.artist.address
  let album ← identifier t.album.address
  return t.triplesWith track artist album

end Track

namespace Record

/-- How messages name a record. -/
def label (r : Record) : String := if r.name = "" then "<unnamed>" else r.name

/-- The address of a part, if it is there and an absolute identifier. -/
def checkAddress (r : Record) (role : Role) (address : Option String) : Except Error String :=
  match address with
  | none => .error (.record r.label (.missingAddress role))
  | some a =>
    if Iri.isAbsolute a.toList then .ok a
    else .error (.record r.label (.invalidAddress role a))

/-- The length, if it is there and not negative. -/
def checkMillis (r : Record) : Except Error UInt64 :=
  match r.millis with
  | none => .error (.record r.label .missingLength)
  | some ms => if ms < 0 then .error (.record r.label .negativeLength) else .ok ms.toUInt64

/-- The first artist, if there is one and its address is an identifier. -/
def checkArtist (r : Record) : Except Error Entity :=
  match r.artists with
  | [] => .error (.record r.label .noArtists)
  | first :: _ => do
      let address ← r.checkAddress .artist first.address
      return { address, name := first.name }

/-- The album, if there is one and its address is an identifier. -/
def checkAlbum (r : Record) : Except Error Entity :=
  match r.album with
  | none => .error (.record r.label .missingAlbum)
  | some album => do
      let address ← r.checkAddress .album album.address
      return { address, name := album.name }

/-- The track that a record describes, or the first fault that was found in it. -/
def toTrack (r : Record) : Except Error Track := do
  let address ← r.checkAddress .track r.address
  let millis ← r.checkMillis
  let artist ← r.checkArtist
  let album ← r.checkAlbum
  return { address, name := r.name, millis, artist, album }

end Record

namespace Graph

/-- Insert the triples of a track. A track with a faulty address leaves the graph as it is. -/
def insertTrack (g : Graph) (t : Track) : Except Error Graph := do
  let triples ← t.triples
  return g.insertAll triples

/-- The graph of a list of tracks. -/
def ofTracks (tracks : List Track) : Except Error Graph :=
  tracks.foldlM insertTrack empty

/-- A change of a graph in place that can fail. What was inserted before a failure stays. -/
abbrev Change := ExceptT Error (StateM Graph)

end Graph

/-- Insert a track in place. All addresses are looked at before the first of its triples is
inserted. -/
def Track.insertion (t : Track) : Graph.Change Unit := do
  let track ← identifier t.address
  let artist ← identifier t.artist.address
  let album ← identifier t.album.address
  (t.triplesWith track artist album).forM fun triple => modify (·.insert triple)

/-- Insert tracks in place, one after the other, and go on behind a failure. -/
def Graph.insertEach (tracks : List Track) : StateM Graph (List (Except Error Unit)) :=
  tracks.mapM fun t => t.insertion.run

end Songbook
