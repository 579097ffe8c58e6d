import Songbook.Duration
import Songbook.Selection
import Songbook.Json.Printer
import Songbook.Json.Reader
import Songbook.Iri.Reference
import Songbook.Rdf.LanguageTag
import Songbook.Rdf.Term
import Songbook.Graph
import Songbook.Track
import Songbook.Turtle.Document
import Songbook.Turtle.Writer
import Songbook.GraphFile
import Songbook.Sparql.Select
import Songbook.Catalog
import Songbook.Request
import Songbook.Session
import Songbook.Environment
import Songbook.Settings
import Songbook.Service.Playlists
import Songbook.Extraction
import Songbook.CommandLine.Run
import Songbook.Main
import Songbook.Proofs.Outcome
import Songbook.Proofs.Text.Bytes
import Songbook.Proofs.Text.Quotation
import Songbook.Proofs.Iri.Alphabet
import Songbook.Proofs.Turtle.Writable
import Songbook.Proofs.Turtle.Numerals
import Songbook.Proofs.Turtle.Comments
import Songbook.Proofs.Turtle.Lexing
import Songbook.Proofs.Turtle.Names
import Songbook.Proofs.Turtle.Reading
import Songbook.Proofs.Turtle.RoundTrip
import Songbook.Proofs.Files.Replacement
import Songbook.Proofs.Files.Siblings
import Songbook.Proofs.Files.Places
import Songbook.Proofs.Files.Saving
import Songbook.Proofs.Tracks
import Songbook.Proofs.Distinct
import Songbook.Proofs.Sparql.Sorting
import Songbook.Proofs.Sparql.Matching
import Songbook.Proofs.Sparql.Conditions
import Songbook.Proofs.Sparql.Readers
import Songbook.Proofs.Sparql.Operators
import Songbook.Proofs.Sparql.Spellings
import Songbook.Proofs.Sparql.Clauses
import Songbook.Proofs.Catalog.Queries
import Songbook.Proofs.Catalog.Rows
import Songbook.Proofs.Catalog.Texts
import Songbook.Proofs.Catalog.Parameters
import Songbook.Proofs.Catalog.Columns
import Songbook.Proofs.Catalog.Songs
import Songbook.Proofs.Catalog.Credits
import Songbook.Proofs.Catalog.Totals
import Songbook.Proofs.Catalog.Reordering
import Songbook.Proofs.Reloading
import Songbook.Proofs.Catalog.Playlists
import Songbook.Proofs.Records
import Songbook.Proofs.Extraction
import Songbook.Proofs.Turtle.Stated
import Songbook.Proofs.Catalog.Lengths
import Songbook.Proofs.Catalog.Listings
import Songbook.Proofs.Insertion
import Songbook.Proofs.Answers
import Songbook.Proofs.Catalog.Sizes
import Songbook.Proofs.Catalog.Attributions
import Songbook.Proofs.Catalog.Failures
import Songbook.Proofs.Requests
import Songbook.Proofs.Catalog.Counts
import Songbook.Proofs.CommandLine.Queries
import Songbook.Proofs.Settings
import Songbook.Proofs.CommandLine.Extractions
import Songbook.Proofs.Catalog.Overflow
import Songbook.Proofs.Catalog.Names
import Songbook.Proofs.Selection
import Songbook.Proofs.Lines
import Songbook.Proofs.Catalog.Appearances
import Songbook.Proofs.Choices
import Songbook.Proofs.Catalog.SongsByName
import Songbook.Proofs.Offers
import Songbook.Proofs.Durations
import Songbook.Proofs.Thresholds
import Songbook.Proofs.Service.Items
import Songbook.Proofs.Service.Pages
