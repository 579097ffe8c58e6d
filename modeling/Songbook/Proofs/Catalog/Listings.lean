import Songbook.Proofs.Catalog.Credits
import Songbook.Proofs.Catalog.Songs
import Songbook.Turtle.Document

/-!
# Listings of artists

One question lists the names of artists, one lists them with titles, and one asks for the titles
of an artist by a name that was listed. The listings tell names apart as literals and show their
texts, while the last question looks for a plain literal with the text. So they agree on plain
names, and a name in some language is listed, but nothing is found for it.
-/

namespace Songbook

open Rdf Sparql Catalog Std

namespace Catalog

variable {g : Graph} {rows : List ArtistSong} {names : List String} {name : String}

/-! ### Rows of artists -/

/-- The artist and the title that a row tells of, by their texts. -/
def artistSongOf (row : Row) : ArtistSong where
  artist := writtenOf artistName row
  title := writtenOf songTitle row

/-- The row has a plain text as the name of the artist. -/
def hasPlainName (name : String) (row : Row) : Bool :=
  row.get? artistName == some (.literal (.plain name))

theorem exists_of_mem_songsByArtist {row : Row} (h : row ∈ songsByArtistQuery.matching g) :
    ∃ r ∈ g.recordings, ∃ t ∈ g.objects r Vocabulary.name,
      ∃ a ∈ g.objects r Vocabulary.byArtist, ∃ n ∈ g.objects a Vocabulary.name,
        row = [(track, r), (songTitle, t), (artist, a), (artistName, n)] := by
  simpa [matching_songsByArtist, List.mem_flatMap] using h

/-- The titles that are found for a name are those that are listed with it as a plain text. -/
theorem map_get?_songsForArtist (g : Graph) (name : String) :
    ((songsForArtistQuery name).matching g).map (·.get? songTitle) =
      ((songsByArtistQuery.matching g).filter (hasPlainName name)).map (·.get? songTitle) := by
  rw [matching_songsForArtist, matching_songsByArtist]
  simp only [List.filter_flatMap, List.map_flatMap]
  refine List.flatMap_congr fun r _ => List.flatMap_congr fun t _ => List.flatMap_congr fun a _ => ?_
  -- both look at every name of the artist
  rw [filter_eq_flatMap, List.flatMap_assoc]
  refine List.flatMap_congr fun n _ => ?_
  have hname : hasPlainName name [(track, r), (songTitle, t), (artist, a), (artistName, n)] =
      (.literal (.plain name) == n) := by
    have hget : Row.get? [(track, r), (songTitle, t), (artist, a), (artistName, n)] artistName =
        some n := rfl
    rw [hasPlainName, hget, Bool.eq_iff_iff, beq_iff_eq, beq_iff_eq, Option.some.injEq]
    exact eq_comm
  rw [List.filter_singleton, List.filter_singleton, hname]
  cases (Term.literal (.plain name) == n) <;> rfl

theorem exists_listed_of_mem_songsForArtist {row : Row}
    (h : row ∈ (songsForArtistQuery name).matching g) :
    ∃ listed ∈ songsByArtistQuery.matching g, listed.get? songTitle = row.get? songTitle := by
  have hmem := List.mem_map_of_mem (f := (·.get? songTitle)) h
  rw [map_get?_songsForArtist] at hmem
  obtain ⟨listed, hlisted, hget⟩ := List.mem_map.mp hmem
  exact ⟨listed, List.mem_of_mem_filter hlisted, hget⟩

/-! ### Answers -/

/-- Read a title with its artist. -/
def readArtistSong (row : Row) : Except Error ArtistSong := do
  let artist ← textIn row "artistName"
  let title ← textIn row "songTitle"
  return { artist, title }

theorem readArtistSong_restrict_eq_ok_iff {row : Row} {song : ArtistSong} :
    readArtistSong (row.restrict [artistName, songTitle]) = .ok song ↔
      TellsLiteral artistName row ∧ TellsLiteral songTitle row ∧ artistSongOf row = song := by
  have hartist : ∀ s, textIn (row.restrict [artistName, songTitle]) "artistName" = .ok s ↔
      TellsLiteral artistName row ∧ writtenOf artistName row = s :=
    fun s => textIn_restrict_eq_ok_iff (by simp [artistName])
  have htitle : ∀ s, textIn (row.restrict [artistName, songTitle]) "songTitle" = .ok s ↔
      TellsLiteral songTitle row ∧ writtenOf songTitle row = s :=
    fun s => textIn_restrict_eq_ok_iff (by simp [songTitle])
  constructor
  · intro h
    obtain ⟨a, ha, h⟩ := bind_eq_ok_iff.mp h
    obtain ⟨t, ht, h⟩ := bind_eq_ok_iff.mp h
    cases h
    obtain ⟨hartist, rfl⟩ := (hartist a).mp ha
    obtain ⟨htitle, rfl⟩ := (htitle t).mp ht
    exact ⟨hartist, htitle, rfl⟩
  · rintro ⟨ha, ht, rfl⟩
    exact bind_eq_ok_iff.mpr ⟨_, (hartist _).mpr ⟨ha, rfl⟩,
      bind_eq_ok_iff.mpr ⟨_, (htitle _).mpr ⟨ht, rfl⟩, rfl⟩⟩

/-- Where titles are listed with artists, both are literals, and all of them are listed. -/
theorem perm_of_songsByArtist (h : songsByArtist g = .ok rows) :
    (∀ row ∈ songsByArtistQuery.matching g, TellsLiteral songTitle row) ∧
      rows.Perm ((songsByArtistQuery.matching g).map artistSongOf) := by
  have hread : (g.select songsByArtistText >>= fun rows => rows.mapM readArtistSong) = .ok rows := h
  have htells : ∀ row ∈ songsByArtistQuery.matching g,
      TellsLiteral artistName row ∧ TellsLiteral songTitle row := by
    intro row hrow
    obtain ⟨song, -, hsong⟩ := exists_mem_of_select textsSpell.songsByArtist
      listsRows_songsByArtist rfl rfl hread hrow
    obtain ⟨hartist, htitle, -⟩ := readArtistSong_restrict_eq_ok_iff.mp hsong
    exact ⟨hartist, htitle⟩
  obtain ⟨sorted, hsorted, hanswer⟩ := exists_rows_of_select textsSpell.songsByArtist
    listsRows_songsByArtist rfl readArtistSong artistSongOf fun row hrow =>
      readArtistSong_restrict_eq_ok_iff.mpr ⟨(htells row hrow).1, (htells row hrow).2, rfl⟩
  obtain rfl : rows = sorted.map artistSongOf := Except.ok.inj (hread.symm.trans hanswer)
  exact ⟨fun row hrow => (htells row hrow).2, hsorted.map artistSongOf⟩

theorem perm_filter_of_songsByArtist (h : songsByArtist g = .ok rows) (name : String) :
    ((rows.filter (·.artist = name)).map ArtistSong.title).Perm
      (((songsByArtistQuery.matching g).filter fun row => writtenOf artistName row = name).map
        (writtenOf songTitle)) := by
  have hfilter := ((perm_of_songsByArtist h).2.filter (·.artist = name)).map ArtistSong.title
  rwa [List.filter_map, List.map_map] at hfilter

/-- Where titles are listed with artists, the titles for a name are found. -/
theorem exists_songsForArtist_eq_ok (h : songsByArtist g = .ok rows) (name : String) :
    ∃ titles, songsForArtist g name = .ok titles ∧ titles.Perm
      (((songsByArtistQuery.matching g).filter (hasPlainName name)).map (writtenOf songTitle)) := by
  have htitles : ∀ row ∈ (songsForArtistQuery name).matching g, TellsLiteral songTitle row := by
    intro row hrow
    obtain ⟨listed, hlisted, hget⟩ := exists_listed_of_mem_songsForArtist hrow
    obtain ⟨l, hl⟩ := (perm_of_songsByArtist h).1 listed hlisted
    exact ⟨l, hget.symm.trans hl⟩
  obtain ⟨sorted, hsorted, hanswer⟩ := exists_rows_of_select (readQuery?_songsForArtistText name)
    listsRows_songsForArtist rfl (textIn · "songTitle") (writtenOf songTitle) fun row hrow =>
      (textIn_restrict_eq_ok_iff (by simp [songsForArtistQuery, songTitle])).mpr
        ⟨htitles row hrow, rfl⟩
  have hwritten := congrArg (List.map fun o : Option Term => (o.bind literalText?).getD "")
    (map_get?_songsForArtist g name)
  rw [List.map_map, List.map_map] at hwritten
  exact ⟨_, hanswer, (hsorted.map _).trans (List.Perm.of_eq hwritten)⟩

theorem mem_of_allArtists (h : allArtists g = .ok names) {row : Row}
    (hrow : row ∈ allArtistsQuery.matching g) : writtenOf artistName row ∈ names := by
  have hrun : row.restrict [artistName] ∈ allArtistsQuery.run g := by
    have hsorted :
        row ∈ sortRows (orderRows allArtistsQuery.orderBy) (allArtistsQuery.matching g) :=
      (sortRows_perm _ _).mem_iff.mpr hrow
    have hprojected := List.mem_eraseDups.mpr
      (List.mem_map_of_mem (f := Row.restrict [artistName]) hsorted)
    rw [Query.run, listsRows_allArtists.map_collected, Query.sorted,
      if_neg listsRows_allArtists.orderBy]
    exact hprojected
  obtain ⟨found, hfound, hread⟩ := bind_eq_ok_iff.mp h
  rw [select_eq_run textsSpell.allArtists] at hfound
  cases hfound
  obtain ⟨s, hs, htext⟩ := exists_mem_of_mapM hread hrun
  obtain ⟨-, rfl⟩ := (textIn_restrict_eq_ok_iff (by simp [artistName])).mp htext
  exact hs

theorem artist_mem_of_songsByArtist (hrows : songsByArtist g = .ok rows)
    (hnames : allArtists g = .ok names) {song : ArtistSong} (h : song ∈ rows) :
    song.artist ∈ names := by
  obtain ⟨listed, hlisted, rfl⟩ :=
    List.mem_map.mp ((perm_of_songsByArtist hrows).2.mem_iff.mp h)
  obtain ⟨r, hr, t, -, a, ha, n, hn, rfl⟩ := exists_of_mem_songsByArtist hlisted
  -- the row without its title is a row of the other listing
  have hcredit : [(track, r), (artist, a), (artistName, n)] ∈ allArtistsQuery.matching g := by
    simp only [matching_allArtists, rowsOf_credits, List.mem_flatMap, List.mem_singleton]
    exact ⟨r, hr, a, ha, n, hn, rfl⟩
  have hname := mem_of_allArtists hnames hcredit
  exact hname

/-! ### Plain names -/

section Plain

variable {row : Row}

theorem writtenOf_of_hasPlainName (h : hasPlainName name row) :
    writtenOf artistName row = name := by
  have hget : row.get? artistName = some (.literal (.plain name)) := beq_iff_eq.mp h
  rw [writtenOf, hget]
  rfl

theorem hasPlainName_eq_decide (h : TellsText artistName row) :
    hasPlainName name row = decide (writtenOf artistName row = name) := by
  rw [hasPlainName, h.writtenOf_eq, h.get?_eq, Bool.eq_iff_iff]
  simp

theorem tellsText_artistName (h : g.ArtistsHavePlainNames)
    (hrow : row ∈ songsByArtistQuery.matching g) : TellsText artistName row := by
  obtain ⟨r, hr, t, -, a, ha, n, hn, rfl⟩ := exists_of_mem_songsByArtist hrow
  obtain ⟨s, rfl⟩ := h.exists_eq hr ha hn
  exact ⟨s, rfl⟩

theorem tellsText_songTitle (h : g.RecordingsHavePlainNames)
    (hrow : row ∈ songsByArtistQuery.matching g) : TellsText songTitle row := by
  obtain ⟨r, hr, t, ht, a, -, n, -, rfl⟩ := exists_of_mem_songsByArtist hrow
  obtain ⟨s, rfl⟩ := h.exists_eq hr ht
  exact ⟨s, rfl⟩

end Plain

theorem pairwise_of_songsForArtist (h : g.RecordingsHavePlainNames) {titles : List String}
    (htitles : songsForArtist g name = .ok titles) : titles.Pairwise (· ≤ ·) := by
  have hanswer : songsForArtist g name = .ok _ := songsForArtist_eq_of_tellsText fun row hrow => by
    obtain ⟨listed, hlisted, hget⟩ := exists_listed_of_mem_songsForArtist hrow
    obtain ⟨s, hs⟩ := tellsText_songTitle h hlisted
    exact ⟨s, hget.symm.trans hs⟩
  rw [hanswer] at htitles
  cases htitles
  exact pairwise_le_sortedBy _

theorem pairwise_of_songsByArtist (hartists : g.ArtistsHavePlainNames)
    (htitles : g.RecordingsHavePlainNames) (h : songsByArtist g = .ok rows) (name : String) :
    ((rows.filter (·.artist = name)).map ArtistSong.title).Pairwise (· ≤ ·) := by
  rw [songsByArtist_eq_of_tellsText fun row hrow =>
    ⟨tellsText_artistName hartists hrow, tellsText_songTitle htitles hrow⟩] at h
  cases h
  rw [List.pairwise_map, List.pairwise_filter]
  refine (pairwise_sortedBy _).imp fun {a b} hle ha hb => ?_
  -- the artist decides first, and is the same
  have hartist : a.artist = b.artist := by
    rw [of_decide_eq_true ha, of_decide_eq_true hb]
  rw [ArtistSong.byArtist_of_eq hartist] at hle
  exact isLE_compare_iff.mp hle

/-- Where artists and titles are listed, all the artists are among the artists that are listed
alone, and what is found for a name is among what is listed for it. Where the names of artists
are plain texts, the artists are listed once and in order, and all that is listed for a name is
found, in the same order if the titles are plain texts too. -/
theorem listings_agree (hrows : songsByArtist g = .ok rows) (hnames : allArtists g = .ok names) :
    (∀ row ∈ rows, row.artist ∈ names) ∧
      (∀ name, ∃ titles, songsForArtist g name = .ok titles ∧
        titles.Subperm ((rows.filter (·.artist = name)).map ArtistSong.title)) ∧
      (g.ArtistsHavePlainNames → names.Pairwise (· < ·) ∧
        ∀ name titles, songsForArtist g name = .ok titles →
          titles.Perm ((rows.filter (·.artist = name)).map ArtistSong.title) ∧
          (∀ row ∈ rows, row.artist = name → titles ≠ []) ∧
          (g.RecordingsHavePlainNames → titles.Pairwise (· ≤ ·) ∧
            titles = (rows.filter (·.artist = name)).map ArtistSong.title)) := by
  have hlisted := perm_filter_of_songsByArtist hrows
  refine ⟨fun row => artist_mem_of_songsByArtist hrows hnames, fun name => ?_,
    fun hartists => ⟨?_, fun name titles htitles => ?_⟩⟩
  · obtain ⟨titles, hanswer, htitles⟩ := exists_songsForArtist_eq_ok hrows name
    -- fewer rows have the name as a plain text than as a text
    have hplain : ∀ row, hasPlainName name row → decide (writtenOf artistName row = name) :=
      fun row hrow => decide_eq_true (writtenOf_of_hasPlainName hrow)
    have hsublist := (List.monotone_filter_right (songsByArtistQuery.matching g) hplain).map
      (writtenOf songTitle)
    exact ⟨titles, hanswer,
      htitles.subperm.trans (hsublist.subperm.trans (hlisted name).symm.subperm)⟩
  · rw [allArtists_eq_of_plain hartists] at hnames
    cases hnames
    exact pairwise_lt_sortedBy (nodup_eraseDups _)
  · obtain ⟨found, hanswer, hfound⟩ := exists_songsForArtist_eq_ok hrows name
    obtain rfl : titles = found := Except.ok.inj (htitles.symm.trans hanswer)
    rw [List.filter_congr fun row hrow =>
      hasPlainName_eq_decide (tellsText_artistName hartists hrow)] at hfound
    have hall := hfound.trans (hlisted name).symm
    refine ⟨hall, fun row hrow hartist hnil => ?_, fun hrecordings => ?_⟩
    · have hmem : row.title ∈ titles := hall.mem_iff.mpr
        (List.mem_map_of_mem (List.mem_filter.mpr ⟨hrow, by simpa using hartist⟩))
      rw [hnil] at hmem
      cases hmem
    · have hsorted := pairwise_of_songsForArtist hrecordings htitles
      exact ⟨hsorted, hall.eq_of_pairwise (fun _ _ _ _ => String.le_antisymm) hsorted
        (pairwise_of_songsByArtist hartists hrecordings hrows name)⟩

/-- Two artists with one name, and a recording by each of them. -/
def namesakes : Graph :=
  let about (address : String) (property : Iri) (value : Term) : Triple :=
    ⟨.iri ⟨address⟩, property, value⟩
  let thing (address : String) : Term := .node (.iri ⟨address⟩)
  Graph.ofTriples
    [about "song:1" Vocabulary.rdfType (.node (.iri Vocabulary.musicRecording)),
      about "song:1" Vocabulary.name (.literal (.plain "B")),
      about "song:1" Vocabulary.byArtist (thing "artist:1"),
      about "song:2" Vocabulary.rdfType (.node (.iri Vocabulary.musicRecording)),
      about "song:2" Vocabulary.name (.literal (.plain "A")),
      about "song:2" Vocabulary.byArtist (thing "artist:2"),
      about "artist:1" Vocabulary.name (.literal (.plain "X")),
      about "artist:2" Vocabulary.name (.literal (.plain "X"))]

/-- A name that two artists have is listed once, and the songs of both are found for it. -/
theorem listings_agree_namesakes :
    songsByArtist namesakes = .ok [⟨"X", "A"⟩, ⟨"X", "B"⟩] ∧ allArtists namesakes = .ok ["X"] ∧
      songsForArtist namesakes "X" = .ok ["A", "B"] ∧ songsForArtist namesakes "Y" = .ok [] := by
  have hrows : songsByArtist namesakes = .ok [⟨"X", "A"⟩, ⟨"X", "B"⟩] := by
    rw [songsByArtist, Graph.select, textsSpell.songsByArtist]
    rfl
  have hnames : allArtists namesakes = .ok ["X"] := by
    rw [allArtists, Graph.select, textsSpell.allArtists]
    rfl
  have hplain : ∀ t ∈ namesakes.triples, t.predicate = Vocabulary.name →
      ∃ s ∈ ["A", "B", "X"], t.object = .literal (.plain s) := by
    decide +kernel
  obtain ⟨-, hfound, hall⟩ := listings_agree hrows hnames
  obtain ⟨-, hall⟩ := hall fun _ a o _ _ ho => by
    obtain ⟨s, -, hs⟩ := hplain _ ho rfl
    exact ⟨s, hs⟩
  have hanswer : ∀ name, songsForArtist namesakes name =
      .ok (([⟨"X", "A"⟩, ⟨"X", "B"⟩] : List ArtistSong).filter (·.artist = name)
        |>.map ArtistSong.title) := by
    intro name
    obtain ⟨titles, hanswer, -⟩ := hfound name
    obtain ⟨-, -, heq⟩ := hall name titles hanswer
    obtain ⟨-, rfl⟩ := heq fun _ o _ ho => by
      obtain ⟨s, -, hs⟩ := hplain _ ho rfl
      exact ⟨s, hs⟩
    exact hanswer
  exact ⟨hrows, hnames, hanswer "X", hanswer "Y"⟩

/-- A recording by an artist whose name is in English. -/
def foreignName : Graph :=
  Graph.ofTriples
    [⟨.iri ⟨"song:1"⟩, Vocabulary.rdfType, .node (.iri Vocabulary.musicRecording)⟩,
      ⟨.iri ⟨"song:1"⟩, Vocabulary.name, .literal (.plain "T")⟩,
      ⟨.iri ⟨"song:1"⟩, Vocabulary.byArtist, .node (.iri ⟨"artist:1"⟩)⟩,
      ⟨.iri ⟨"artist:1"⟩, Vocabulary.name, .literal (.tagged "X" "en")⟩]

/-- A document of this recording. -/
def foreignNameDocument : String :=
  Text.lines
    ["@prefix s: <http://schema.org/> .",
      "<song:1> a s:MusicRecording ; s:name \"T\" ; s:byArtist <artist:1> .",
      "<artist:1> s:name \"X\"@en ."]

/-- A name in some language is listed, alone and with a title, but nothing is found for it. -/
theorem listings_differ_foreignName :
    Graph.ofDocument foreignNameDocument.toUTF8 = .ok foreignName ∧
      allArtists foreignName = .ok ["X"] ∧ songsByArtist foreignName = .ok [⟨"X", "T"⟩] ∧
      songsForArtist foreignName "X" = .ok [] := by
  refine ⟨?_, ?_, ?_, ?_⟩
  · obtain ⟨g, hread, hstated⟩ : ∃ g, Graph.ofDocument foreignNameDocument.toUTF8 = .ok g ∧
        g.triples = foreignName.triples := exists_of_map_toOption (by decide +kernel)
    rw [hread, Graph.ext hstated]
  · rw [allArtists, Graph.select, textsSpell.allArtists]
    rfl
  · rw [songsByArtist, Graph.select, textsSpell.songsByArtist]
    rfl
  · rw [songsForArtist, Graph.select, readQuery?_songsForArtistText]
    rfl

end Catalog

end Songbook
