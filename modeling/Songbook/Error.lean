import Songbook.Text.Quoted

/-!
# What can go wrong

Every failure of the library is a cause, not a text: the wording is kept in one function,
`Error.message`, and everything else tells failures apart by their constructors.
-/

namespace Songbook

/-- The three parts that an address can name. -/
inductive Role
  | track
  | artist
  | album
  deriving DecidableEq, Repr

/-- The word that messages and service addresses use for a role. -/
def Role.word : Role → String
  | .track => "track"
  | .artist => "artist"
  | .album => "album"

/-- Why a record is no complete track. -/
inductive RecordFault
  | missingAddress (role : Role)
  | invalidAddress (role : Role) (address : String)
  | missingLength
  | negativeLength
  | noArtists
  | missingAlbum
  deriving DecidableEq, Repr

/-- The reason as messages give it. -/
def RecordFault.reason : RecordFault → String
  | .missingAddress role => "missing " ++ role.word ++ " uri"
  | .invalidAddress role address =>
      "invalid " ++ role.word ++ " uri " ++ Text.quoted address
  | .missingLength => "missing duration"
  | .negativeLength => "negative duration"
  | .noArtists => "no artists listed"
  | .missingAlbum => "missing album"

/-- Why an identifier of the music service is refused. -/
inductive IdentifierFault
  | badCharacters
  | badType
  | badFormat
  deriving DecidableEq, Repr

/-- The word that messages use for the fault of an identifier. -/
def IdentifierFault.word : IdentifierFault → String
  | .badCharacters => "InvalidId"
  | .badType => "InvalidType"
  | .badFormat => "InvalidFormat"

/-- Why an answer of a query does not have the expected shape. -/
inductive ResultFault
  | notRows
  | unbound (column : String)
  | notLiteral (column : String) (shown : String)
  | notNumber (column : String) (value : String)
  deriving DecidableEq, Repr

/-- The fault of an answer as messages give it. -/
def ResultFault.reason : ResultFault → String
  | .notRows => "expected SELECT solutions"
  | .unbound column => "?" ++ column ++ " is unbound"
  | .notLiteral column shown => "?" ++ column ++ " is not a literal: " ++ shown
  | .notNumber column value => "?" ++ column ++ " is not a non-negative integer: " ++ value

/-- Why the operating system refuses to work on a path. -/
inductive SystemFault
  | notFound
  | busy
  | notADirectory
  | isADirectory
  | nameTooLong
  /-- A name contains the character that ends names. -/
  | nulInName
  deriving DecidableEq, Repr

/-- The system's own text for a fault, with its number. -/
def SystemFault.reason : SystemFault → String
  | .notFound => "No such file or directory (os error 2)"
  | .busy => "Device or resource busy (os error 16)"
  | .notADirectory => "Not a directory (os error 20)"
  | .isADirectory => "Is a directory (os error 21)"
  | .nameTooLong => "File name too long (os error 36)"
  | .nulInName => "file name contained an unexpected NUL byte"

/-- Why reading or writing failed. -/
inductive FileFault
  | system (fault : SystemFault)
  | cannotOpen (path : String) (fault : SystemFault)
  | notText
  deriving DecidableEq, Repr

/-- The fault of reading or writing as messages give it. -/
def FileFault.reason : FileFault → String
  | .system fault => fault.reason
  | .cannotOpen path fault => "cannot open graph file " ++ path ++ ": " ++ fault.reason
  | .notText => "stream did not contain valid UTF-8"

/-- Why an argument of the user is refused. -/
inductive InputFault
  | notALength (input : String)
  | missingThreshold
  deriving DecidableEq, Repr

/-- The fault of an argument as messages give it. -/
def InputFault.reason : InputFault → String
  | .notALength input =>
      "'" ++ input ++ "' is not a duration in 'minutes:seconds' form (e.g. 4:00)"
  | .missingThreshold => "--min-duration is required for the 'longer_than' query"

/-- Why the settings are refused. -/
inductive SettingsFault
  | missing (names : List String)
  | invalidClient
  deriving DecidableEq, Repr

/-- The fault of the settings as messages give it. -/
def SettingsFault.reason : SettingsFault → String
  | .missing names =>
      "missing environment variables: " ++ ", ".intercalate names ++
        ". Set them in the environment or a .env file."
  | .invalidClient => "invalid client"

/-- The failures of the library, by cause. -/
inductive Error
  /-- The settings are incomplete or refused. -/
  | settings (fault : SettingsFault)
  /-- The music service did not answer, or its answer does not fit. -/
  | service
  /-- An identifier of the music service is not well formed. -/
  | identifier (fault : IdentifierFault)
  /-- A text that is to name a node is no absolute IRI. -/
  | iri (text : String)
  /-- A document is not well-formed Turtle. -/
  | document
  /-- A query text is not understood. -/
  | query
  /-- A query answered something else than expected. -/
  | result (fault : ResultFault)
  /-- A record is no complete track; the label names it. -/
  | record (label : String) (fault : RecordFault)
  /-- An argument of the user is refused. -/
  | input (fault : InputFault)
  /-- Reading or writing failed. -/
  | file (fault : FileFault)
  deriving DecidableEq, Repr

/-- The text that tells the user about a failure. -/
def Error.message : Error → String
  | .settings fault => "Configuration error: " ++ fault.reason
  | .service => "Spotify error: the request was not answered"
  | .identifier fault => "Invalid Spotify id: " ++ fault.word
  | .iri text => "Invalid IRI: " ++ Text.quoted text
  | .document => "Failed to load graph: the document is not well-formed"
  | .query => "SPARQL evaluation error: the query is not understood"
  | .result fault => "Unexpected query result: " ++ fault.reason
  | .record label fault => "Malformed track record " ++ label ++ ": " ++ fault.reason
  | .input fault => "Invalid input: " ++ fault.reason
  | .file fault => "I/O error: " ++ fault.reason

end Songbook
