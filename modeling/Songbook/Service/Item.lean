import Songbook.Json
import Songbook.Service.Identifier
import Songbook.Track

/-!
# Items of a playlist as the service describes them

The service answers with JSON documents. An item of a playlist holds a song, or something else
that is not looked into: an episode, a song that is gone, or a document that lacks what a song
must have. Every item becomes a record; the addresses of a record come from identifiers.
-/

namespace Songbook.Service

/-- An artist or an album of a song. Local files have no identifier. -/
structure Credit where
  identifier : Option Identifier
  name : String

/-- A recorded song as the service describes it. -/
structure Recording where
  identifier : Option Identifier
  name : String
  millis : Int64
  artists : List Credit
  album : Credit

/-- An item of a playlist. -/
inductive Item
  | recording (s : Recording)
  | other

/-! ### Reading -/

/-- The text of a field. -/
def textAt (name : String) (j : Json) : Option String := (j.field name).asText?

/-- The truth value of a field. -/
def booleanAt (name : String) (j : Json) : Option Bool := (j.field name).asBoolean?

/-- The whole number of a field, within bounds. -/
def integerAt (name : String) (least most : Int) (j : Json) : Option Int := do
  let n ← (j.field name).asInteger?
  if least ≤ n ∧ n ≤ most then some n else none

/-- The items of a field. -/
def itemsAt (name : String) (j : Json) : Option (List Json) := (j.field name).asArray?

/-- The texts of a field, which may be missing from the object but not null. -/
def textsAt? (name : String) (j : Json) : Option (List String) :=
  if j.hasField name then do (← itemsAt name j).mapM Json.asText? else some []

/-- The texts of a field by name. -/
def namedTextsAt (name : String) (j : Json) : Option (List (String × String)) := do
  (← (j.field name).asObject?).mapM fun (key, value) => do return (key, ← value.asText?)

/-- The text of a field that may be null or missing. -/
def textAt? (name : String) (j : Json) : Option (Option String) :=
  (j.field name).optional? Json.asText?

/-- The identifier of a field that may be null or missing. -/
def identifierAt? (type : Role) (name : String) (j : Json) : Option (Option Identifier) :=
  (j.field name).optional? fun value => do
    (Identifier.read type.word (← value.asText?)).toOption

/-- The greatest number of 64 bits with a sign. -/
def greatestLong : Int := 0x7FFFFFFFFFFFFFFF

/-- The greatest number of 32 bits with a sign. -/
def greatestWord : Int := 0x7FFFFFFF

/-- The greatest number of 32 bits without a sign. -/
def greatestCount : Int := 0xFFFFFFFF

/-- An artist. -/
def readArtist (document : Json) : Option Credit := do
  let j ← document.withFields? ["external_urls", "href", "id", "name"]
  let identifier ← identifierAt? .artist "id" j
  let name ← textAt "name" j
  let _ ← namedTextsAt "external_urls" j
  let _ ← textAt? "href" j
  return { identifier, name }

/-- The size of a picture, which may be null or missing. -/
def sizeAt? (name : String) (j : Json) : Option (Option Int) :=
  (j.field name).optional? fun value => do
    let n ← value.asInteger?
    if 0 ≤ n ∧ n ≤ greatestCount then some n else none

/-- A picture. -/
def readPicture (document : Json) : Option String := do
  let j ← document.withFields? ["height", "url", "width"]
  let _ ← sizeAt? "height" j
  let _ ← sizeAt? "width" j
  textAt "url" j

/-- One of some words, given as a text or as the name of the only field of an object, which is
null then. -/
def readWord (words : List String) : Json → Option String
  | .text word => if word ∈ words then some word else none
  | .object [(word, .null)] => if word ∈ words then some word else none
  | _ => none

/-- The reason why something is restricted. -/
def readRestriction (document : Json) : Option String := do
  let j ← document.withFields? ["reason"]
  readWord ["market", "product", "explicit"] (j.field "reason")

/-- The song in whose place another one is offered. -/
def readLink (document : Json) : Option String := do
  let j ← document.withFields? ["external_urls", "href", "id", "type", "uri"]
  let _ ← namedTextsAt "external_urls" j
  let _ ← identifierAt? .track "id" j
  let _ ← ["type", "uri"].mapM (textAt · j)
  textAt "href" j

/-- The fields of an album. -/
def albumFields : List String :=
  ["album_group", "album_type", "artists", "available_markets", "external_urls", "href", "id",
   "images", "name", "release_date", "release_date_precision", "restrictions"]

/-- An album. -/
def readAlbum (document : Json) : Option Credit := do
  let j ← document.withFields? albumFields
  let identifier ← identifierAt? .album "id" j
  let name ← textAt "name" j
  let _ ← (← itemsAt "artists" j).mapM readArtist
  let _ ← namedTextsAt "external_urls" j
  let _ ← (← itemsAt "images" j).mapM readPicture
  let _ ← textsAt? "available_markets" j
  let _ ← ["album_group", "album_type", "href", "release_date",
    "release_date_precision"].mapM (textAt? · j)
  let _ ← (j.field "restrictions").optional? readRestriction
  return { identifier, name }

/-- The fields of a song. -/
def recordingFields : List String :=
  ["album", "artists", "available_markets", "disc_number", "duration_ms", "explicit",
   "external_ids", "external_urls", "href", "id", "is_local", "is_playable", "linked_from",
   "restrictions", "name", "popularity", "preview_url", "track_number", "type"]

/-- A song. Everything that the service promises must be there, also what is not used. -/
def readRecording (document : Json) : Option Recording := do
  let j ← document.withFields? recordingFields
  let identifier ← identifierAt? .track "id" j
  let name ← textAt "name" j
  let millis ← integerAt "duration_ms" (-greatestLong) greatestLong j
  let artists ← (← itemsAt "artists" j).mapM readArtist
  let album ← readAlbum (j.field "album")
  let _ ← textsAt? "available_markets" j
  let _ ← integerAt "disc_number" (-greatestWord - 1) greatestWord j
  let _ ← ["explicit", "is_local"].mapM (booleanAt · j)
  let _ ← ["external_ids", "external_urls"].mapM (namedTextsAt · j)
  let _ ← ["popularity", "track_number"].mapM (integerAt · 0 greatestCount j)
  let _ ← ["href", "preview_url"].mapM (textAt? · j)
  let _ ← (j.field "is_playable").optional? Json.asBoolean?
  let _ ← (j.field "linked_from").optional? readLink
  let _ ← (j.field "restrictions").optional? readRestriction
  let _ ← textAt "type" j
  return { identifier, name, millis := Int64.ofInt millis, artists, album }

/-- The number of followers. -/
def readFollowers (document : Json) : Option Int := do
  let j ← document.withFields? ["total"]
  integerAt "total" 0 greatestCount j

/-- The user who added an item. -/
def readUser (document : Json) : Option String := do
  let j ← document.withFields?
    ["display_name", "external_urls", "followers", "href", "id"] ["images"]
  let _ ← textAt? "display_name" j
  let _ ← namedTextsAt "external_urls" j
  let _ ← (j.field "followers").optional? readFollowers
  let _ ← textAt "href" j
  let images ← if j.hasField "images" then itemsAt "images" j else some []
  let _ ← images.mapM readPicture
  textAt "id" j

/-- An item of a playlist. It must say whether it is a local file; what it holds may be anything. -/
def readItem (document : Json) : Option Item := do
  let j ← document.withFields? ["added_at", "added_by", "is_local", "track"]
  let _ ← textAt? "added_at" j
  let _ ← (j.field "added_by").optional? readUser
  let _ ← booleanAt "is_local" j
  return match readRecording (j.field "track") with
    | some s => .recording s
    | none => .other

/-! ### Records -/

/-- The record of an artist or an album. -/
def Credit.record (role : Role) (c : Credit) : EntityRecord where
  address := c.identifier.map (Identifier.address role.word)
  name := c.name

/-- The record of a song. -/
def Recording.record (s : Recording) : Record where
  address := s.identifier.map (Identifier.address Role.track.word)
  name := s.name
  millis := some s.millis
  artists := s.artists.map (Credit.record .artist)
  album := some (s.album.record .album)

/-- The record of an item. What is no song carries nothing but a remark for its name. -/
def Item.record : Item → Record
  | recording s => s.record
  | other => { name := "<non-track item>" }

end Songbook.Service
