import Songbook.Proofs.Catalog.Queries

/-!
# The texts of the catalog

Each query text spells the query of its question. The texts without a parameter are read once
and for all by evaluation.
-/

namespace Songbook

theorem Text.toList_lines (ls : List String) :
    (Text.lines ls).toList = ls.flatMap fun line => line.toList ++ ['\n'] := by
  induction ls with
  | nil => rfl
  | cons line ls ih => simp [Text.lines, ih]

namespace Sparql

/-- The query that characters spell. -/
def readChars? (cs : List Char) : Option Form :=
  match (Nested.ofDepth (depthOf cs)).readForm { rest := cs } with
  | some (form, { rest := [], .. }) => some form
  | _ => none

theorem readQuery?_eq (text : String) : readQuery? text = readChars? text.toList := rfl

end Sparql

namespace Catalog

open Rdf Sparql

/-- What the texts without a parameter spell. -/
structure TextsSpell : Prop where
  totalLength : readQuery? totalLengthText = some (.rows totalLengthQuery)
  songCount : readQuery? songCountText = some (.rows songCountQuery)
  songsByLength : readQuery? songsByLengthText = some (.rows (songQuery [] longestFirst none))
  longestSong : readQuery? longestSongText = some (.rows (songQuery [] longestFirst (some 1)))
  shortestSong : readQuery? shortestSongText = some (.rows (songQuery [] shortestFirst (some 1)))
  songsByAlbum : readQuery? songsByAlbumText = some (.rows songsByAlbumQuery)
  songsByArtist : readQuery? songsByArtistText = some (.rows songsByArtistQuery)
  artistsByAppearance : readQuery? artistsByAppearanceText = some (.rows artistsByAppearanceQuery)
  allArtists : readQuery? allArtistsText = some (.rows allArtistsQuery)

-- Each text is a closed term of a few hundred characters, which the kernel reads.
theorem textsSpell : TextsSpell where
  totalLength := by
    rw [readQuery?_eq, totalLengthText, Text.toList_lines]
    decide +kernel
  songCount := by
    rw [readQuery?_eq, songCountText, Text.toList_lines]
    decide +kernel
  songsByLength := by
    rw [readQuery?_eq, songsByLengthText, Text.toList_lines]
    decide +kernel
  longestSong := by
    rw [readQuery?_eq, longestSongText, Text.toList_lines]
    decide +kernel
  shortestSong := by
    rw [readQuery?_eq, shortestSongText, Text.toList_lines]
    decide +kernel
  songsByAlbum := by
    rw [readQuery?_eq, songsByAlbumText, Text.toList_lines]
    decide +kernel
  songsByArtist := by
    rw [readQuery?_eq, songsByArtistText, Text.toList_lines]
    decide +kernel
  artistsByAppearance := by
    rw [readQuery?_eq, artistsByAppearanceText, Text.toList_lines]
    decide +kernel
  allArtists := by
    rw [readQuery?_eq, allArtistsText, Text.toList_lines]
    decide +kernel

end Catalog

end Songbook
