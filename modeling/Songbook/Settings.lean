import Songbook.Error
import Songbook.Text.Blank

/-!
# Settings

Four values must be known before a playlist can be fetched: three from variables of the
environment, and the identifier of the playlist from a variable or from the user. All
variables that are missing are reported together.
-/

namespace Songbook

/-- What must be known before a playlist is fetched, and where its graph goes. -/
structure Settings where
  clientId : String
  clientSecret : String
  redirectUri : String
  playlistId : String
  output : String
  deriving DecidableEq, Repr

/-- What the user gave instead of a variable or of a default. -/
structure Overrides where
  playlistId : Option String := none
  output : Option String := none
  deriving DecidableEq, Repr

namespace Settings

/-- The file of the graph if the user names no other. -/
def defaultOutput : String := "wedding_playlist.rdf"

/-- The variable of the client's identifier. -/
def clientIdVariable : String := "SPOTIFY_CLIENT_ID"

/-- The variable of the client's secret. -/
def clientSecretVariable : String := "SPOTIFY_CLIENT_SECRET"

/-- The variable of the address to which a login returns. -/
def redirectUriVariable : String := "SPOTIFY_REDIRECT_URI"

/-- The variable of the playlist's identifier. -/
def playlistIdVariable : String := "SPOTIFY_PLAYLIST_ID"

/-- The value of a variable, if it is there and not blank. -/
def present? (lookup : String → Option String) (name : String) : Option String :=
  (lookup name).filter fun value => !Text.isBlankText value

/-- The variables that must be present, in the order in which they are reported. -/
def required (o : Overrides) : List String :=
  [clientIdVariable, clientSecretVariable, redirectUriVariable] ++
    if o.playlistId.isSome then [] else [playlistIdVariable]

/-- The required variables that are missing or blank. -/
def missing (o : Overrides) (lookup : String → Option String) : List String :=
  (required o).filter fun name => (present? lookup name).isNone

/-- The settings that variables and the user give. -/
def make (o : Overrides) (lookup : String → Option String) : Except Error Settings :=
  match present? lookup clientIdVariable, present? lookup clientSecretVariable,
    present? lookup redirectUriVariable,
    o.playlistId.or (present? lookup playlistIdVariable) with
  | some clientId, some clientSecret, some redirectUri, some playlistId =>
      .ok { clientId, clientSecret, redirectUri, playlistId,
            output := o.output.getD defaultOutput }
  | _, _, _, _ => .error (.settings (.missing (missing o lookup)))

end Settings

/-- What a client of the service is set up with. -/
structure Client where
  id : String
  secret : String
  redirectUri : String
  /-- What the client asks permission for. -/
  scopes : List String
  /-- Whether a permission that was given once is kept. -/
  tokenCached : Bool
  /-- The file in which it is kept. -/
  cacheFile : String
  deriving DecidableEq, Repr

/-- The client of settings. It asks for reading private playlists only. -/
def Settings.client (s : Settings) : Client where
  id := s.clientId
  secret := s.clientSecret
  redirectUri := s.redirectUri
  scopes := ["playlist-read-private"]
  tokenCached := true
  cacheFile := ".playlist_rdf_spotify_cache"

end Songbook
