import Songbook.Iri
import Songbook.Rdf.Moment
import Songbook.Rdf.Period

/-!
# Identifiers with a fixed meaning

The identifiers of RDF itself, of the XML Schema datatypes whose values are understood, and
of the terms that describe recordings.
-/

namespace Songbook.Vocabulary

/-- The namespace of the terms that describe recordings. -/
def schemaNamespace : String := "http://schema.org/"

/-- The namespace of the service's own terms, which is bound in written documents only. -/
def spotifyNamespace : String := "http://www.spotify.com/ontologies/"

/-- The property that gives the class of a node. -/
def rdfType : Iri := ⟨"http://www.w3.org/1999/02/22-rdf-syntax-ns#type"⟩

/-- The property that gives the first item of a collection. -/
def rdfFirst : Iri := ⟨"http://www.w3.org/1999/02/22-rdf-syntax-ns#first"⟩

/-- The property that gives the collection behind the first item. -/
def rdfRest : Iri := ⟨"http://www.w3.org/1999/02/22-rdf-syntax-ns#rest"⟩

/-- The empty collection. -/
def rdfNil : Iri := ⟨"http://www.w3.org/1999/02/22-rdf-syntax-ns#nil"⟩

/-- The datatype of texts with a language. -/
def rdfLangString : Iri := ⟨"http://www.w3.org/1999/02/22-rdf-syntax-ns#langString"⟩

/-- The datatype of plain texts. -/
def xsdString : Iri := ⟨"http://www.w3.org/2001/XMLSchema#string"⟩

/-- The datatype of truth values. -/
def xsdBoolean : Iri := ⟨"http://www.w3.org/2001/XMLSchema#boolean"⟩

/-- The datatype of whole numbers. -/
def xsdInteger : Iri := ⟨"http://www.w3.org/2001/XMLSchema#integer"⟩

/-- The datatype of decimal numbers. -/
def xsdDecimal : Iri := ⟨"http://www.w3.org/2001/XMLSchema#decimal"⟩

/-- The datatype of floating-point numbers of 64 bits. -/
def xsdDouble : Iri := ⟨"http://www.w3.org/2001/XMLSchema#double"⟩

/-- The datatype of floating-point numbers of 32 bits. -/
def xsdFloat : Iri := ⟨"http://www.w3.org/2001/XMLSchema#float"⟩

/-- The namespace of the XML Schema datatypes. -/
def xsdNamespace : String := "http://www.w3.org/2001/XMLSchema#"

/-- The names of the datatypes whose values are whole numbers. -/
def integerDatatypes : List String :=
  ["integer", "byte", "short", "int", "long", "unsignedByte", "unsignedShort", "unsignedInt",
   "unsignedLong", "positiveInteger", "negativeInteger", "nonPositiveInteger",
   "nonNegativeInteger"]

/-- The name of the datatype of a kind of periods. -/
def periodDatatype : PeriodKind → String
  | .full => "duration"
  | .dayTime => "dayTimeDuration"
  | .yearMonth => "yearMonthDuration"

/-- The name of the datatype of a kind of moments. -/
def momentDatatype : MomentKind → String
  | .dateTime => "dateTime"
  | .date => "date"
  | .time => "time"
  | .yearMonth => "gYearMonth"
  | .year => "gYear"
  | .monthDay => "gMonthDay"
  | .day => "gDay"
  | .month => "gMonth"

/-- The names of the datatypes whose values are periods of time, with their kinds. -/
def periodDatatypes : List (String × PeriodKind) :=
  [.full, .dayTime, .yearMonth].map fun kind => (periodDatatype kind, kind)

/-- The names of the datatypes whose values are moments of the calendar, with their kinds. A
moment does not remember that its zone had to be known. -/
def momentDatatypes : List (String × MomentKind) :=
  ("dateTimeStamp", .dateTime) ::
    [.dateTime, .date, .time, .yearMonth, .year, .monthDay, .day, .month].map fun kind =>
      (momentDatatype kind, kind)

/-- The class of recordings. -/
def musicRecording : Iri := ⟨"http://schema.org/MusicRecording"⟩

/-- The property that gives the name of a recording, an artist or an album. -/
def name : Iri := ⟨"http://schema.org/name"⟩

/-- The property that gives the length of a recording in whole seconds. -/
def duration : Iri := ⟨"http://schema.org/duration"⟩

/-- The property that gives the artist of a recording. -/
def byArtist : Iri := ⟨"http://schema.org/byArtist"⟩

/-- The property that gives the album of a recording. -/
def inAlbum : Iri := ⟨"http://schema.org/inAlbum"⟩

end Songbook.Vocabulary
