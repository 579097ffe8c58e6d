import Songbook.Proofs.Catalog.Attributions
import Songbook.Proofs.Catalog.Parameters

/-!
# Albums and artists

Where all names are plain texts, the questions for albums and artists are answered with the names
that the recordings of the graph lead to. How often an artist appears is counted for each artist
and name, so two artists with one name are counted separately.
-/

namespace Songbook

open Rdf Sparql Catalog Std

/-! ### Names that recordings lead to -/

/-- The order of titles by album. -/
def AlbumSong.byAlbum : AlbumSong → AlbumSong → Ordering :=
  compareLex (compareOn AlbumSong.album) (compareOn AlbumSong.title)

instance : TransCmp AlbumSong.byAlbum := inferInstanceAs (TransCmp (compareLex _ _))

instance : LawfulEqCmp AlbumSong.byAlbum where
  eq_of_compare {a b} h := by
    obtain ⟨halbum, htitle⟩ := compareLex_eq_eq.mp h
    cases a
    cases b
    simp_all [compareOn]

/-- The order of titles by artist. -/
def ArtistSong.byArtist : ArtistSong → ArtistSong → Ordering :=
  compareLex (compareOn ArtistSong.artist) (compareOn ArtistSong.title)

instance : TransCmp ArtistSong.byArtist := inferInstanceAs (TransCmp (compareLex _ _))

instance : LawfulEqCmp ArtistSong.byArtist where
  eq_of_compare {a b} h := by
    obtain ⟨hartist, htitle⟩ := compareLex_eq_eq.mp h
    cases a
    cases b
    simp_all [compareOn]

/-- Songs by one artist are in the order of their titles. -/
theorem ArtistSong.byArtist_of_eq {a b : ArtistSong} (h : a.artist = b.artist) :
    byArtist a b = compare a.title b.title := by
  have hartist : compareOn ArtistSong.artist a b = .eq := by
    rw [compareOn, h]
    exact ReflCmp.compare_self
  rw [byArtist, compareLex, hartist]
  rfl

/-- The order of artists from the most frequent to the least, and by name. -/
def ArtistCount.mostFrequent : ArtistCount → ArtistCount → Ordering :=
  compareLex (fun a b => compare b.songs a.songs) (compareOn ArtistCount.artist)

instance : TransCmp ArtistCount.mostFrequent :=
  haveI : TransCmp fun a b : ArtistCount => compare b.songs a.songs :=
    @TransCmp.opposite _ (compareOn ArtistCount.songs) _
  inferInstanceAs (TransCmp (compareLex _ _))

instance : LawfulEqCmp ArtistCount.mostFrequent where
  eq_of_compare {a b} h := by
    obtain ⟨hsongs, hartist⟩ := compareLex_eq_eq.mp h
    cases a
    cases b
    simp_all [compareOn]

namespace Graph

/-- All names are plain texts. -/
def NamesArePlain (g : Graph) : Prop :=
  ∀ n o, ⟨n, Vocabulary.name, o⟩ ∈ g.triples → ∃ s, o = .literal (.plain s)

/-- No node is a name then. -/
theorem NamesArePlain.not_mem {g : Graph} (h : g.NamesArePlain) (s n : Node) :
    ⟨s, Vocabulary.name, .node n⟩ ∉ g.triples := by
  intro hmem
  obtain ⟨text, htext⟩ := h s _ hmem
  cases htext

theorem objects_eq_of_plain {g : Graph} {about : Term}
    (h : ∀ o ∈ g.objects about Vocabulary.name, ∃ s, o = .literal (.plain s)) :
    g.objects about Vocabulary.name = (g.names about).map fun s => .literal (.plain s) := by
  rw [names, List.map_filterMap]
  generalize g.objects about Vocabulary.name = os at h
  induction os with
  | nil => rfl
  | cons o os ih =>
    obtain ⟨s, rfl⟩ := h o (by simp)
    rw [List.filterMap_cons, ← ih fun o ho => h o (by simp [ho])]
    rfl

theorem NamesArePlain.objects_eq {g : Graph} (h : g.NamesArePlain) (about : Term) :
    g.objects about Vocabulary.name = (g.names about).map fun s => .literal (.plain s) := by
  refine objects_eq_of_plain fun o ho => ?_
  obtain ⟨n, _, ht⟩ := mem_objects.mp ho
  exact h n o ht

/-- The artists of recordings have no other names than plain texts. -/
def ArtistsHavePlainNames (g : Graph) : Prop :=
  ∀ n a o, ⟨n, Vocabulary.rdfType, .node (.iri Vocabulary.musicRecording)⟩ ∈ g.triples →
    ⟨n, Vocabulary.byArtist, .node a⟩ ∈ g.triples → ⟨a, Vocabulary.name, o⟩ ∈ g.triples →
    ∃ s, o = .literal (.plain s)

theorem ArtistsHavePlainNames.exists_eq {g : Graph} (h : g.ArtistsHavePlainNames) {r a o : Term}
    (hr : r ∈ g.recordings) (ha : a ∈ g.objects r Vocabulary.byArtist)
    (ho : o ∈ g.objects a Vocabulary.name) : ∃ s, o = .literal (.plain s) := by
  obtain ⟨n, rfl, hn⟩ := mem_subjects.mp hr
  obtain ⟨m, hm, ha⟩ := mem_objects.mp ha
  obtain ⟨b, rfl, hb⟩ := mem_objects.mp ho
  cases hm
  exact h n b o hn ha hb

theorem NamesArePlain.artists {g : Graph} (h : g.NamesArePlain) : g.ArtistsHavePlainNames :=
  fun _ a o _ _ ho => h a o ho

/-- Every recording with each of its titles and each name of its albums. -/
def albumSongs (g : Graph) : List AlbumSong :=
  g.recordings.flatMap fun r => (g.names r).flatMap fun t =>
    (g.objects r Vocabulary.inAlbum).flatMap fun a => (g.names a).map fun n => ⟨n, t⟩

/-- Every recording with each of its titles and each name of its artists. -/
def artistSongs (g : Graph) : List ArtistSong :=
  g.recordings.flatMap fun r => (g.names r).flatMap fun t =>
    (g.objects r Vocabulary.byArtist).flatMap fun a => (g.names a).map fun n => ⟨n, t⟩

/-- Every recording with each of its artists and each name of the artist. -/
def credits (g : Graph) : List (Term × String) :=
  g.recordings.flatMap fun r => (g.objects r Vocabulary.byArtist).flatMap fun a =>
    (g.names a).map fun n => (a, n)

theorem mem_artistSongs {g : Graph} {song : ArtistSong} :
    song ∈ g.artistSongs ↔ ∃ r ∈ g.recordings, song.title ∈ g.names r ∧
      ∃ a ∈ g.objects r Vocabulary.byArtist, song.artist ∈ g.names a := by
  simp only [artistSongs, List.mem_flatMap, List.mem_map]
  constructor
  · rintro ⟨r, hr, t, ht, a, ha, n, hn, rfl⟩
    exact ⟨r, hr, ht, a, ha, hn⟩
  · rintro ⟨r, hr, ht, a, ha, hn⟩
    exact ⟨r, hr, song.title, ht, a, ha, song.artist, hn, rfl⟩

theorem mem_credits {g : Graph} {credit : Term × String} :
    credit ∈ g.credits ↔ ∃ r ∈ g.recordings, credit.1 ∈ g.objects r Vocabulary.byArtist ∧
      credit.2 ∈ g.names credit.1 := by
  simp only [credits, List.mem_flatMap, List.mem_map]
  constructor
  · rintro ⟨r, hr, a, ha, n, hn, rfl⟩
    exact ⟨r, hr, ha, hn⟩
  · rintro ⟨r, hr, ha, hn⟩
    exact ⟨r, hr, credit.1, ha, credit.2, hn, rfl⟩

/-- Every artist with each name and the number of credits. -/
def appearances (g : Graph) : List ArtistCount :=
  g.credits.eraseDups.map fun credit => ⟨credit.2, g.credits.count credit⟩

/-- A credit is an attribution by a plain text. -/
def plainAttribution (credit : Term × String) : Term × Term :=
  (credit.1, .literal (.plain credit.2))

theorem plainAttribution_injective : Function.Injective plainAttribution := by
  rintro ⟨a, s⟩ ⟨b, t⟩ h
  simp only [plainAttribution, Prod.mk.injEq, Term.literal.injEq, Literal.plain.injEq] at h
  simp [h]

theorem ArtistsHavePlainNames.attributions_eq {g : Graph} (h : g.ArtistsHavePlainNames) :
    g.attributions = g.credits.map plainAttribution := by
  simp only [attributions, credits, List.map_flatMap]
  refine List.flatMap_congr fun r hr => List.flatMap_congr fun a ha => ?_
  rw [objects_eq_of_plain fun o ho => h.exists_eq hr ha ho, List.map_map, List.map_map]
  rfl

end Graph

namespace Catalog

variable {g : Graph}

theorem listsRows_songsByAlbum : ListsRows songsByAlbumQuery :=
  ⟨rfl, rfl, List.cons_ne_nil _ _, by simp [songsByAlbumQuery], rfl⟩

theorem listsRows_songsByArtist : ListsRows songsByArtistQuery :=
  ⟨rfl, rfl, List.cons_ne_nil _ _, by simp [songsByArtistQuery], rfl⟩

theorem listsRows_songsForArtist {name : String} : ListsRows (songsForArtistQuery name) :=
  ⟨rfl, rfl, List.cons_ne_nil _ _, by simp [songsForArtistQuery], rfl⟩

theorem listsRows_allArtists : ListsRows allArtistsQuery :=
  ⟨rfl, rfl, List.cons_ne_nil _ _, by simp [allArtistsQuery], rfl⟩

/-! ### Titles by album and by artist -/

/-- A question for two columns of texts that is sorted by both of them. -/
theorem select_texts_eq {α : Type} {text : String} {q : Query} (first second : String)
    (make : String → String → α) (cmp : α → α → Ordering) [TransCmp cmp] [LawfulEqCmp cmp]
    (hcmp : ∀ s t s' t', cmp (make s t) (make s' t') = (compare s s').then (compare t t'))
    (htext : readQuery? text = some (.rows q)) (hlists : ListsRows q)
    (hkept : q.repetition = .kept) (hlimit : q.limit = none)
    (hcolumns : q.columns.map Column.name = [.named first, .named second])
    (horderBy : q.orderBy = [(.ascending, .unknown (.named first)),
      (.ascending, .unknown (.named second))])
    (hrows : ∀ row ∈ q.matching g, TellsText (.named first) row ∧ TellsText (.named second) row) :
    (g.select text >>= fun rows => rows.mapM fun row => do
      let s ← textIn row first
      let t ← textIn row second
      return make s t) =
      .ok (sortedBy cmp ((q.matching g).map fun row =>
        make (textOf (.named first) row) (textOf (.named second) row))) := by
  let told (row : Row) : α := make (textOf (.named first) row) (textOf (.named second) row)
  have horder : ∀ a ∈ q.matching g, ∀ b ∈ q.matching g,
      orderRows q.orderBy a b = cmp (told a) (told b) := by
    intro a ha b hb
    obtain ⟨ha₁, ha₂⟩ := hrows a ha
    obtain ⟨hb₁, hb₂⟩ := hrows b hb
    rw [horderBy, orderRows, orderRows, orderRows, orderBy_ascending ha₁ hb₁,
      orderBy_ascending ha₂ hb₂, Ordering.then_eq, hcmp]
  let read (row : Row) : Except Error α := do
    let s ← textIn row first
    let t ← textIn row second
    return make s t
  have hread : ∀ row ∈ q.matching g,
      read (row.restrict (q.columns.map Column.name)) = .ok (told row) := by
    intro row hrow
    obtain ⟨h₁, h₂⟩ := hrows row hrow
    rw [hcolumns]
    exact bind_eq_ok_iff.mpr ⟨_, textIn_restrict (by simp) h₁,
      bind_eq_ok_iff.mpr ⟨_, textIn_restrict (by simp) h₂, rfl⟩⟩
  have hanswer := select_eq_ok htext hlists hkept read told cmp horder hread
  rw [hlimit] at hanswer
  exact hanswer

/-- All titles with the names of albums. -/
theorem songsByAlbum_eq (h : g.NamesArePlain) :
    songsByAlbum g = .ok (sortedBy AlbumSong.byAlbum g.albumSongs) := by
  have hmatching : songsByAlbumQuery.matching g =
      g.recordings.flatMap fun r => (g.names r).flatMap fun t =>
        (g.objects r Vocabulary.inAlbum).flatMap fun a => (g.names a).flatMap fun n =>
          [[(track, r), (songTitle, .literal (.plain t)), (album, a),
            (albumTitle, .literal (.plain n))]] := by
    rw [matching_songsByAlbum]
    simp only [h.objects_eq, List.flatMap_map]
  have hanswer := select_texts_eq (g := g) "albumTitle" "songTitle"
    (fun album title => AlbumSong.mk album title) AlbumSong.byAlbum (fun _ _ _ _ => rfl)
    textsSpell.songsByAlbum listsRows_songsByAlbum rfl rfl rfl rfl ?_
  · refine hanswer.trans ?_
    simp only [hmatching, List.map_flatMap, List.map_cons, List.map_nil]
    simp only [Graph.albumSongs, List.map_eq_flatMap]
    rfl
  · intro row hrow
    simp only [hmatching, List.mem_flatMap, List.mem_singleton] at hrow
    obtain ⟨r, _, t, _, a, _, n, _, rfl⟩ := hrow
    exact ⟨⟨n, rfl⟩, ⟨t, rfl⟩⟩

/-- All titles with the names of artists, where both are plain texts. -/
theorem songsByArtist_eq_of_tellsText
    (h : ∀ row ∈ songsByArtistQuery.matching g,
      TellsText artistName row ∧ TellsText songTitle row) :
    songsByArtist g = .ok (sortedBy ArtistSong.byArtist ((songsByArtistQuery.matching g).map
      fun row => ⟨textOf artistName row, textOf songTitle row⟩)) :=
  select_texts_eq "artistName" "songTitle" (fun artist title => ArtistSong.mk artist title)
    ArtistSong.byArtist (fun _ _ _ _ => rfl) textsSpell.songsByArtist listsRows_songsByArtist rfl
    rfl rfl rfl h

/-- All titles with the names of artists. -/
theorem songsByArtist_eq (h : g.NamesArePlain) :
    songsByArtist g = .ok (sortedBy ArtistSong.byArtist g.artistSongs) := by
  have hmatching : songsByArtistQuery.matching g =
      g.recordings.flatMap fun r => (g.names r).flatMap fun t =>
        (g.objects r Vocabulary.byArtist).flatMap fun a => (g.names a).flatMap fun n =>
          [[(track, r), (songTitle, .literal (.plain t)), (artist, a),
            (artistName, .literal (.plain n))]] := by
    rw [matching_songsByArtist]
    simp only [h.objects_eq, List.flatMap_map]
  refine (songsByArtist_eq_of_tellsText fun row hrow => ?_).trans ?_
  · simp only [hmatching, List.mem_flatMap, List.mem_singleton] at hrow
    obtain ⟨r, _, t, _, a, _, n, _, rfl⟩ := hrow
    exact ⟨⟨n, rfl⟩, ⟨t, rfl⟩⟩
  · simp only [hmatching, List.map_flatMap, List.map_cons, List.map_nil]
    simp only [Graph.artistSongs, List.map_eq_flatMap]
    rfl

/-- The titles of all songs by artists with a name, where titles are plain texts. -/
theorem songsForArtist_eq_of_tellsText {name : String}
    (h : ∀ row ∈ (songsForArtistQuery name).matching g, TellsText songTitle row) :
    songsForArtist g name =
      .ok (sortedBy compare (((songsForArtistQuery name).matching g).map (textOf songTitle))) := by
  have horder : ∀ a ∈ (songsForArtistQuery name).matching g,
      ∀ b ∈ (songsForArtistQuery name).matching g,
      orderRows (songsForArtistQuery name).orderBy a b =
        compare (textOf songTitle a) (textOf songTitle b) := by
    intro a ha b hb
    rw [songsForArtistQuery, orderRows, orderRows, orderBy_ascending (h a ha) (h b hb)]
    exact Ordering.then_eq
  exact select_eq_ok (readQuery?_songsForArtistText name) listsRows_songsForArtist rfl
    (textIn · "songTitle") (textOf songTitle) compare horder
    (fun row hrow => textIn_restrict (by simp [songsForArtistQuery, songTitle]) (h row hrow))

/-- The titles of all songs by artists with a name. -/
theorem songsForArtist_eq (h : g.NamesArePlain) (name : String) :
    songsForArtist g name =
      .ok (sortedBy compare ((g.artistSongs.filter (·.artist = name)).map ArtistSong.title)) := by
  have hmatching : (songsForArtistQuery name).matching g =
      g.recordings.flatMap fun r => (g.names r).flatMap fun t =>
        (g.objects r Vocabulary.byArtist).flatMap fun a =>
          ((g.names a).filter (· = name)).flatMap fun _ =>
            [[(track, r), (songTitle, .literal (.plain t)), (artist, a)]] := by
    have hname : ((Term.literal (.plain name) == ·) ∘ fun s => .literal (.plain s)) =
        fun s => decide (s = name) := by
      funext s
      rw [Bool.eq_iff_iff]
      simp only [Function.comp_apply, beq_iff_eq, Term.literal.injEq, Literal.plain.injEq,
        decide_eq_true_eq]
      exact eq_comm
    rw [matching_songsForArtist]
    simp only [h.objects_eq, List.flatMap_map, List.filter_map, hname]
  refine (songsForArtist_eq_of_tellsText fun row hrow => ?_).trans ?_
  · simp only [hmatching, List.mem_flatMap, List.mem_singleton] at hrow
    obtain ⟨r, _, t, _, a, _, n, _, rfl⟩ := hrow
    exact ⟨t, rfl⟩
  · simp only [hmatching, List.map_flatMap, List.map_cons, List.map_nil]
    simp only [Graph.artistSongs, List.filter_flatMap, List.map_flatMap, List.filter_map,
      List.map_map]
    simp only [List.map_eq_flatMap]
    rfl

/-! ### Artists -/

/-- The row of a credit, without the recording. -/
def creditRow (credit : Term × String) : Row :=
  [(artist, credit.1), (artistName, .literal (.plain credit.2))]

theorem map_restrict_rowsOf_credits (h : g.ArtistsHavePlainNames) :
    (rowsOf g [isRecording, isByArtist, artistHasName]).map (Row.restrict [artist, artistName]) =
      g.credits.map creditRow := by
  rw [map_restrict_rowsOf, h.attributions_eq, List.map_map]
  rfl

/-- Every row of a recording with its artist is the row of a credit. -/
theorem exists_creditRow (h : g.ArtistsHavePlainNames) {row : Row}
    (hrow : row ∈ rowsOf g [isRecording, isByArtist, artistHasName]) :
    ∃ credit ∈ g.credits, row.restrict [artist, artistName] = creditRow credit := by
  have hmem := List.mem_map_of_mem (f := Row.restrict [artist, artistName]) hrow
  rw [map_restrict_rowsOf_credits h] at hmem
  obtain ⟨credit, hcredit, heq⟩ := List.mem_map.mp hmem
  exact ⟨credit, hcredit, heq.symm⟩

theorem get?_artistName_eq {row : Row} {credit : Term × String}
    (h : row.restrict [artist, artistName] = creditRow credit) :
    row.get? artistName = some (.literal (.plain credit.2)) := by
  have hmem : artistName ∈ [artist, artistName] := by simp
  rw [← get?_restrict hmem, h]
  rfl

theorem allArtists_eq_of_plain (h : g.ArtistsHavePlainNames) :
    allArtists g = .ok (sortedBy compare (g.credits.map Prod.snd).eraseDups) := by
  let rows := rowsOf g [isRecording, isByArtist, artistHasName]
  let sorted := sortRows (orderRows allArtistsQuery.orderBy) rows
  let nameRow (s : String) : Row := [(artistName, .literal (.plain s))]
  have hinjective : Function.Injective nameRow := by
    intro s t hst
    simpa [nameRow] using hst
  have htells : ∀ row ∈ rows, TellsText artistName row := by
    intro row hrow
    obtain ⟨credit, _, heq⟩ := exists_creditRow h hrow
    exact ⟨credit.2, get?_artistName_eq heq⟩
  have hnames : rows.map (textOf artistName) = g.credits.map Prod.snd := by
    have hrestrict : ∀ row, textOf artistName (Row.restrict [artist, artistName] row) =
        textOf artistName row := fun row => by
      rw [textOf, textOf, get?_restrict (by simp)]
    have hmap := congrArg (List.map (textOf artistName)) (map_restrict_rowsOf_credits h)
    rw [List.map_map, List.map_map] at hmap
    exact (List.map_congr_left fun row _ => (hrestrict row).symm).trans hmap
  have hsorted : sorted.map (textOf artistName) = sortedBy compare (g.credits.map Prod.snd) := by
    rw [← hnames]
    refine map_sortRows fun a ha b hb => ?_
    rw [allArtistsQuery, orderRows, orderRows, orderBy_ascending (htells a ha) (htells b hb)]
    exact Ordering.then_eq
  -- repetitions are removed after sorting and projecting, when only names are left
  have hprojected : sorted.map (Row.restrict [artistName]) =
      (sortedBy compare (g.credits.map Prod.snd)).map nameRow := by
    rw [← hsorted, List.map_map]
    refine List.map_congr_left fun row hrow => ?_
    have hget := (htells row ((sortRows_perm _ _).mem_iff.mp hrow)).get?_eq
    simp [Row.restrict, hget, nameRow]
  have hrun : allArtistsQuery.run g =
      (sortedBy compare (g.credits.map Prod.snd).eraseDups).map nameRow := by
    rw [← eraseDups_sortedBy, ← eraseDups_map hinjective, ← hprojected, Query.run,
      listsRows_allArtists.map_collected, matching_allArtists, Query.sorted,
      if_neg listsRows_allArtists.orderBy]
    rfl
  have hread : ∀ s : String, textIn (nameRow s) "artistName" = .ok s :=
    fun s => textIn_eq (l := .plain s) rfl
  refine bind_eq_ok_iff.mpr ⟨_, select_eq_run textsSpell.allArtists g, ?_⟩
  change (allArtistsQuery.run g).mapM (textIn · "artistName") = _
  rw [hrun, List.mapM_map]
  exact (mapM_eq_ok (g := id) fun s _ => hread s).trans (by rw [List.map_id])

/-- The names of all artists. -/
theorem allArtists_eq (h : g.NamesArePlain) :
    allArtists g = .ok (sortedBy compare (g.credits.map Prod.snd).eraseDups) :=
  allArtists_eq_of_plain h.artists

/-! ### Appearances -/

/-- The numbers of appearances with the names of artists, the greatest number first. -/
def mostFrequent : Int64 × String → Int64 × String → Ordering :=
  compareLex (fun a b => compare b.1.toInt a.1.toInt) (compareOn Prod.snd)

instance : TransCmp mostFrequent :=
  haveI : TransCmp fun a b : Int64 × String => compare b.1.toInt a.1.toInt :=
    @TransCmp.opposite _ (compareOn fun a : Int64 × String => a.1.toInt) _
  inferInstanceAs (TransCmp (compareLex _ _))

instance : LawfulEqCmp mostFrequent where
  eq_of_compare {a b} h := by
    obtain ⟨hnumber, hname⟩ := compareLex_eq_eq.mp h
    have hint : b.1.toInt = a.1.toInt := by simpa using hnumber
    exact Prod.ext (Int64.toInt_inj.mp hint).symm (by simpa [compareOn] using hname)

/-- The number of appearances and the name that a row tells of. -/
def appearanceOf (row : Row) : Int64 × String :=
  (((row.get? (.named "numSongs")).bind wordOf?).getD 0, textOf artistName row)

/-- Read the number of appearances of an artist. -/
def readAppearance (appearance : Int64 × String) : Except Error ArtistCount := do
  let songs ← numberIn [(.named "numSongs", .literal (.integer appearance.1))] "numSongs"
  return { artist := appearance.2, songs }

/-- Every artist with each name and the number of credits. -/
def appearanceRows (g : Graph) : List Row :=
  g.credits.eraseDups.map fun credit =>
    creditRow credit ++ [(computed, countTerm (g.credits.count credit)),
      (.named "numSongs", countTerm (g.credits.count credit))]

theorem map_collected_artistsByAppearance (h : g.ArtistsHavePlainNames) :
    (artistsByAppearanceQuery.collected g).map artistsByAppearanceQuery.withColumns =
      appearanceRows g := by
  rw [map_collected_attributions, h.attributions_eq,
    eraseDups_map Graph.plainAttribution_injective, List.map_map, appearanceRows]
  refine List.map_congr_left fun credit _ => ?_
  rw [Function.comp_apply, List.count_map_of_injective _ _ Graph.plainAttribution_injective]
  rfl

theorem orderRows_appearances {a b : Row} (ha : a ∈ appearanceRows g) (hb : b ∈ appearanceRows g) :
    orderRows artistsByAppearanceQuery.orderBy a b =
      mostFrequent (appearanceOf a) (appearanceOf b) := by
  obtain ⟨c, _, rfl⟩ := List.mem_map.mp ha
  obtain ⟨d, _, rfl⟩ := List.mem_map.mp hb
  have hnumber : ∀ m n : Int64, (Term.orderMissing (some (.literal (.integer m)))
      (some (.literal (.integer n)))).swap = compare n.toInt m.toInt := fun m n =>
    Int.compare_swap m.toInt n.toInt
  change ((Term.orderMissing (some (countTerm _)) (some (countTerm _))).swap.then
    ((Term.orderMissing (some (.literal (.plain c.2))) (some (.literal (.plain d.2)))).then .eq)) = _
  rw [countTerm, countTerm, hnumber, orderMissing_plain, Ordering.then_eq]
  rfl

/-- The number of songs of each artist, the most frequent first. -/
theorem artistsByAppearance_eq_of_plain (h : g.ArtistsHavePlainNames) :
    artistsByAppearance g =
      (sortedBy mostFrequent (g.credits.eraseDups.map fun credit =>
        (Int64.ofNat (g.credits.count credit), credit.2))).mapM readAppearance := by
  let read (row : Row) : Except Error ArtistCount := do
    let artist ← textIn row "artistName"
    let songs ← numberIn row "numSongs"
    return { artist, songs }
  have hread : ∀ row ∈ appearanceRows g,
      read (row.restrict (artistsByAppearanceQuery.columns.map Column.name)) =
        readAppearance (appearanceOf row) := by
    intro row hrow
    obtain ⟨credit, _, rfl⟩ := List.mem_map.mp hrow
    refine (congrArg (· >>= _) (textIn_eq (l := .plain credit.2) rfl)).trans ?_
    rfl
  have hanswer := mapM_select_eq textsSpell.artistsByAppearance
    (map_collected_artistsByAppearance h) (List.cons_ne_nil _ _) rfl rfl read
    (fun a ha b hb => orderRows_appearances ha hb) hread
  refine hanswer.trans ?_
  rw [appearanceRows, List.map_map]
  rfl

theorem artistsByAppearance_eq (h : g.NamesArePlain) :
    artistsByAppearance g =
      (sortedBy mostFrequent (g.credits.eraseDups.map fun credit =>
        (Int64.ofNat (g.credits.count credit), credit.2))).mapM readAppearance :=
  artistsByAppearance_eq_of_plain h.artists

theorem readAppearance_eq {appearance : Int64 × String} (h : 0 ≤ appearance.1.toInt) :
    readAppearance appearance = .ok ⟨appearance.2, appearance.1.toInt.toNat⟩ :=
  bind_eq_ok_iff.mpr ⟨_, numberIn_eq h rfl, rfl⟩

/-- Where the credits are not too many to be counted, their numbers are answered as they are. -/
theorem artistsByAppearance_eq_ok_of_plain (h : g.ArtistsHavePlainNames)
    (hbound : ∀ credit, g.credits.count credit < 2 ^ 63) :
    artistsByAppearance g = .ok (sortedBy ArtistCount.mostFrequent g.appearances) := by
  let counts := g.credits.eraseDups.map fun credit =>
    (Int64.ofNat (g.credits.count credit), credit.2)
  let toCount (appearance : Int64 × String) : ArtistCount :=
    ⟨appearance.2, appearance.1.toInt.toNat⟩
  have htoInt : ∀ credit, (Int64.ofNat (g.credits.count credit)).toInt = g.credits.count credit :=
    fun credit => Int64.toInt_ofNat_of_lt (hbound credit)
  have hnonneg : ∀ appearance ∈ counts, 0 ≤ appearance.1.toInt := by
    intro appearance hmem
    obtain ⟨credit, _, rfl⟩ := List.mem_map.mp hmem
    rw [htoInt]
    omega
  have hread : ∀ appearance ∈ sortedBy mostFrequent counts,
      readAppearance appearance = .ok (toCount appearance) := fun appearance hmem =>
    readAppearance_eq (hnonneg _ ((sortedBy_perm _ _).mem_iff.mp hmem))
  have horder : ∀ a ∈ counts, ∀ b ∈ counts,
      mostFrequent a b = ArtistCount.mostFrequent (toCount a) (toCount b) := by
    intro a ha b hb
    have hnumbers : compare b.1.toInt a.1.toInt = compare b.1.toInt.toNat a.1.toInt.toNat :=
      orderMissing_integer (hnonneg b hb) (hnonneg a ha)
    simp only [mostFrequent, ArtistCount.mostFrequent, compareLex, compareOn, toCount, hnumbers]
  have hcounts : counts.map toCount = g.appearances := by
    rw [Graph.appearances, List.map_map]
    refine List.map_congr_left fun credit _ => ?_
    simp only [Function.comp_apply, toCount, htoInt, Int.toNat_natCast]
  rw [artistsByAppearance_eq_of_plain h]
  exact (mapM_eq_ok hread).trans (by rw [map_sortedBy horder, hcounts])

theorem artistsByAppearance_eq_ok (h : g.NamesArePlain) (hbound : g.credits.length < 2 ^ 63) :
    artistsByAppearance g = .ok (sortedBy ArtistCount.mostFrequent g.appearances) :=
  artistsByAppearance_eq_ok_of_plain h.artists fun _ =>
    Nat.lt_of_le_of_lt List.count_le_length hbound

end Catalog

end Songbook
