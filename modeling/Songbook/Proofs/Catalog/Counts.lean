import Mathlib.Algebra.BigOperators.Group.List.Lemmas
import Songbook.Proofs.Catalog.Listings
import Songbook.Proofs.Catalog.Totals

/-!
# Counts of artists

Where every recording has one title and one artist, and every artist of a recording one name, the
appearances of artists, the titles by artist and the recordings are three ways to go through the
same recordings. So the counts of the artists add up to the recordings, for all artists and for
the artists of one name. Every recording makes one attribution, and the counts are those of the
attributions: `Graph.SingleCredits.attributions_eq`.
-/

namespace Songbook

open Rdf Sparql Catalog Std

namespace Graph

/-- Every recording has one title and one artist, and every artist of a recording is a node with
one name. Titles and names are literals of any kind. -/
structure SingleCredits (g : Graph) : Prop where
  title : ∀ r ∈ g.recordings, ∃ l, g.objects r Vocabulary.name = [.literal l]
  artist : ∀ r ∈ g.recordings, ∃ n, g.objects r Vocabulary.byArtist = [.node n]
  name : ∀ r ∈ g.recordings, ∀ a ∈ g.objects r Vocabulary.byArtist,
    ∃ l, g.objects a Vocabulary.name = [.literal l]

/-- The first artist of a recording with the first name of that artist. -/
def attribution (g : Graph) (r : Term) : Term × Term :=
  let a := (g.objects r Vocabulary.byArtist).headD r
  (a, (g.objects a Vocabulary.name).headD a)

variable {g : Graph} {r : Term}

theorem SingleCredits.exists_eq (h : g.SingleCredits) (hr : r ∈ g.recordings) :
    ∃ n l, g.objects r Vocabulary.byArtist = [.node n] ∧
      g.objects (.node n) Vocabulary.name = [.literal l] ∧
      g.attribution r = (.node n, .literal l) := by
  obtain ⟨n, hartist⟩ := h.artist r hr
  obtain ⟨l, hname⟩ := h.name r hr (.node n) (by simp [hartist])
  exact ⟨n, l, hartist, hname, by simp [attribution, hartist, hname]⟩

/-- Every recording makes one attribution. -/
theorem SingleCredits.attributions_eq (h : g.SingleCredits) :
    g.attributions = g.recordings.map g.attribution := by
  rw [attributions, List.map_eq_flatMap]
  refine List.flatMap_congr fun r hr => ?_
  obtain ⟨n, l, hartist, hname, heq⟩ := h.exists_eq hr
  simp [hartist, hname, heq]

end Graph

namespace Catalog

variable {g : Graph}

/-! ### Sums of counts -/

theorem eraseDups_perm_dedup {α : Type} [DecidableEq α] (as : List α) :
    as.eraseDups.Perm as.dedup := by
  refine (List.perm_ext_iff_of_nodup (nodup_eraseDups as) (List.nodup_dedup as)).mpr fun a => ?_
  rw [List.mem_eraseDups, List.mem_dedup]

/-- How often the values occur that pass a test is how many values pass it. -/
theorem sum_map_count_filter_eraseDups {α : Type} [b : BEq α] [LawfulBEq α] (test : α → Bool)
    (as : List α) : ((as.eraseDups.filter test).map as.count).sum = as.countP test := by
  classical
  obtain rfl : b = instBEqOfDecidableEq := lawful_beq_subsingleton _ _
  have hperm := ((eraseDups_perm_dedup as).filter test).map as.count
  rw [hperm.sum_nat]
  exact List.sum_map_count_dedup_filter_eq_countP test as

/-! ### Appearances -/

/-- The name of an attribution as it is shown. -/
def shownName (attribution : Term × Term) : String := (literalText? attribution.2).getD ""

/-- What is shown of an attribution. -/
def appearance (g : Graph) (attribution : Term × Term) : ArtistCount :=
  ⟨shownName attribution, g.attributions.count attribution⟩

/-- The attribution of a counted row. -/
def attributionOf (row : Row) : Term × Term :=
  ((row.get? artist).getD (.node (.blank 0)), (row.get? artistName).getD (.node (.blank 0)))

theorem countTerm_toInt {k : Nat} (h : k < 2 ^ 63) : (Int64.ofNat k).toInt = k :=
  Int64.toInt_ofNat_of_lt h

/-- Numbers of rows are sorted by their values, the greatest first. -/
theorem orderMissing_countTerm {k m : Nat} (hk : k < 2 ^ 63) (hm : m < 2 ^ 63) :
    (Term.orderMissing (some (countTerm k)) (some (countTerm m))).swap = compare m k := by
  have hk' := countTerm_toInt hk
  have hm' := countTerm_toInt hm
  rw [countTerm, countTerm, orderMissing_integer (by omega) (by omega), hk', hm']
  exact Nat.compare_swap k m

/-- The most frequent artists come first, whatever their names are. -/
theorem respects_counts (hbound : g.recordings.length < 2 ^ 63) (as : List (Term × Term)) :
    Respects (orderRows artistsByAppearanceQuery.orderBy)
      (fun a b => g.attributions.count (attributionOf b) ≤ g.attributions.count (attributionOf a))
      (as.map fun c => countedRow c (g.attributions.count c)) := by
  have hcount (c : Term × Term) : g.attributions.count c < 2 ^ 63 :=
    Nat.lt_of_le_of_lt (g.count_attributions_le c) hbound
  refine respects_of_compare fun a ha b hb => ?_
  obtain ⟨c, -, rfl⟩ := List.mem_map.mp ha
  obtain ⟨d, -, rfl⟩ := List.mem_map.mp hb
  change ∃ o, _ = (compare (g.attributions.count d) (g.attributions.count c)).then o
  rw [← orderMissing_countTerm (hcount c) (hcount d)]
  -- the numbers are compared before the names
  exact ⟨(Term.orderMissing (some c.2) (some d.2)).then .eq, rfl⟩

/-- The attributions are answered with their counts, the most frequent first. -/
theorem exists_artistsByAppearance_eq_ok (hbound : g.recordings.length < 2 ^ 63)
    (hliteral : ∀ c ∈ g.attributions, ∃ l, c.2 = .literal l) :
    ∃ sorted : List (Term × Term), sorted.Perm g.attributions.eraseDups ∧
      sorted.Pairwise (fun c d => g.attributions.count d ≤ g.attributions.count c) ∧
      artistsByAppearance g = .ok (sorted.map (appearance g)) := by
  let counted (c : Term × Term) : Row := countedRow c (g.attributions.count c)
  let rows := g.attributions.eraseDups.map counted
  let sorted := sortRows (orderRows artistsByAppearanceQuery.orderBy) rows
  have hperm : sorted.Perm rows := sortRows_perm _ _
  have hselect : g.select artistsByAppearanceText =
      .ok (sorted.map (Row.restrict [artistName, .named "numSongs"])) :=
    select_eq_map_sortRows textsSpell.artistsByAppearance (map_collected_attributions g)
      (List.cons_ne_nil _ _) rfl rfl
  refine ⟨sorted.map attributionOf, ?_, ?_, ?_⟩
  · have hmap := hperm.map attributionOf
    rw [List.map_map] at hmap
    exact hmap.trans (List.Perm.of_eq (List.map_id _))
  · have htrans : ∀ a b c : Row,
        g.attributions.count (attributionOf b) ≤ g.attributions.count (attributionOf a) →
        g.attributions.count (attributionOf c) ≤ g.attributions.count (attributionOf b) →
        g.attributions.count (attributionOf c) ≤ g.attributions.count (attributionOf a) :=
      fun _ _ _ hab hbc => Nat.le_trans hbc hab
    rw [List.pairwise_map]
    exact pairwise_sortRows htrans (respects_counts hbound g.attributions.eraseDups)
  · refine bind_eq_ok_iff.mpr ⟨_, hselect, ?_⟩
    rw [List.mapM_map, List.map_map]
    refine mapM_eq_ok fun row hrow => ?_
    obtain ⟨c, hc, rfl⟩ := List.mem_map.mp (hperm.mem_iff.mp hrow)
    obtain ⟨l, hl⟩ := hliteral c (List.mem_eraseDups.mp hc)
    have htoInt := countTerm_toInt (Nat.lt_of_le_of_lt (g.count_attributions_le c) hbound)
    have htext : textIn ((counted c).restrict [artistName, .named "numSongs"]) "artistName" =
        .ok l.text := textIn_eq (congrArg some hl)
    have hnumber : numberIn ((counted c).restrict [artistName, .named "numSongs"]) "numSongs" =
        .ok (g.attributions.count c) := by
      rw [numberIn_eq (n := Int64.ofNat (g.attributions.count c)) (by omega) rfl, htoInt,
        Int.toNat_natCast]
    have hshown : appearance g (attributionOf (counted c)) = ⟨l.text, g.attributions.count c⟩ := by
      change ArtistCount.mk (shownName c) _ = _
      rw [shownName, hl]
      rfl
    refine Eq.trans ?_ (congrArg Except.ok hshown.symm)
    exact bind_eq_ok_iff.mpr ⟨_, htext, bind_eq_ok_iff.mpr ⟨_, hnumber, rfl⟩⟩

/-! ### Titles by artist -/

theorem map_artist_songsByArtist (h : g.SingleCredits) :
    (songsByArtistQuery.matching g).map (writtenOf artistName) = g.attributions.map shownName := by
  rw [matching_songsByArtist, Graph.attributions, List.map_flatMap, List.map_flatMap]
  refine List.flatMap_congr fun r hr => ?_
  obtain ⟨l, htitle⟩ := h.title r hr
  simp only [htitle, List.flatMap_cons, List.flatMap_nil, List.append_nil, List.map_flatMap]
  refine List.flatMap_congr fun a _ => ?_
  rw [List.map_map, List.map_eq_flatMap]
  rfl

/-- Every attribution is listed once, with the title of its recording. -/
theorem exists_songsByArtist_eq_ok (h : g.SingleCredits) :
    ∃ rows, songsByArtist g = .ok rows ∧
      (rows.map ArtistSong.artist).Perm (g.attributions.map shownName) := by
  have hread : ∀ row ∈ songsByArtistQuery.matching g,
      readArtistSong (row.restrict [artistName, songTitle]) = .ok (artistSongOf row) := by
    intro row hrow
    obtain ⟨r, hr, t, ht, a, ha, n, hn, rfl⟩ := exists_of_mem_songsByArtist hrow
    obtain ⟨l, htitle⟩ := h.title r hr
    obtain ⟨m, hname⟩ := h.name r hr a ha
    rw [htitle, List.mem_singleton] at ht
    rw [hname, List.mem_singleton] at hn
    subst ht hn
    exact readArtistSong_restrict_eq_ok_iff.mpr ⟨⟨m, rfl⟩, ⟨l, rfl⟩, rfl⟩
  obtain ⟨sorted, hperm, hanswer⟩ := exists_rows_of_select textsSpell.songsByArtist
    listsRows_songsByArtist rfl readArtistSong artistSongOf hread
  refine ⟨_, hanswer, ?_⟩
  have hartists := hperm.map (writtenOf artistName)
  rw [map_artist_songsByArtist h] at hartists
  change ((sorted.map artistSongOf).map ArtistSong.artist).Perm _
  rw [List.map_map]
  exact hartists

/-! ### Counts add up -/

/-- The number of recordings by an artist. -/
def recordingsBy (g : Graph) (a : Term) : Nat :=
  g.recordings.countP fun r => (g.objects r Vocabulary.byArtist).contains a

theorem count_attributions (h : g.SingleCredits) {a n : Term} (hmem : (a, n) ∈ g.attributions) :
    g.attributions.count (a, n) = recordingsBy g a := by
  obtain ⟨-, hn⟩ := Graph.mem_attributions.mp hmem
  rw [h.attributions_eq, List.count, List.countP_map, recordingsBy]
  refine List.countP_congr fun r hr => ?_
  obtain ⟨m, l, hartist, hname, heq⟩ := h.exists_eq hr
  simp only [Function.comp_apply, heq, hartist, beq_iff_eq, List.contains_iff_mem,
    List.mem_singleton, Prod.mk.injEq]
  constructor
  · exact fun hpair => hpair.1.symm
  · rintro rfl
    rw [hname, List.mem_singleton] at hn
    exact ⟨rfl, hn.symm⟩

/-- The counts of some names add up to the attributions that show them. -/
theorem sum_counts {sorted : List (Term × Term)} (hperm : sorted.Perm g.attributions.eraseDups)
    (test : String → Bool) :
    (((sorted.map (appearance g)).filter fun c => test c.artist).map ArtistCount.songs).sum =
      (g.attributions.map shownName).countP test := by
  rw [List.filter_map, List.map_map, List.countP_map,
    ← sum_map_count_filter_eraseDups (test ∘ shownName) g.attributions]
  exact ((hperm.filter (test ∘ shownName)).map fun c => g.attributions.count c).sum_nat

/-- Artists of recordings are told apart by their nodes, and each of them has one name. -/
theorem nodup_artists (h : g.SingleCredits) {sorted : List (Term × Term)}
    (hperm : sorted.Perm g.attributions.eraseDups) : (sorted.map Prod.fst).Nodup := by
  have hnodup : sorted.Nodup := hperm.nodup_iff.mpr (nodup_eraseDups _)
  refine List.Nodup.map_on ?_ hnodup
  rintro ⟨a, m⟩ hm ⟨b, n⟩ hn rfl
  obtain ⟨⟨r, hr, ha⟩, hm⟩ := Graph.mem_attributions.mp (List.mem_eraseDups.mp (hperm.mem_iff.mp hm))
  obtain ⟨-, hn⟩ := Graph.mem_attributions.mp (List.mem_eraseDups.mp (hperm.mem_iff.mp hn))
  obtain ⟨l, hname⟩ := h.name r hr _ ha
  rw [hname, List.mem_singleton] at hm hn
  rw [hm, hn]

theorem mem_artists_iff (h : g.SingleCredits) {sorted : List (Term × Term)}
    (hperm : sorted.Perm g.attributions.eraseDups) {a : Term} :
    a ∈ sorted.map Prod.fst ↔ ∃ r ∈ g.recordings, a ∈ g.objects r Vocabulary.byArtist := by
  rw [(hperm.map Prod.fst).mem_iff, List.mem_map]
  constructor
  · rintro ⟨⟨a, n⟩, hmem, rfl⟩
    exact (Graph.mem_attributions.mp (List.mem_eraseDups.mp hmem)).1
  · rintro ⟨r, hr, ha⟩
    obtain ⟨l, hname⟩ := h.name r hr a ha
    refine ⟨(a, .literal l), List.mem_eraseDups.mpr ?_, rfl⟩
    exact Graph.mem_attributions.mpr ⟨⟨r, hr, ha⟩, by simp [hname]⟩

/-- The order of artists, where equal counts are told apart by names that are plain texts. -/
theorem pairwise_artistsByAppearance (hplain : g.ArtistsHavePlainNames)
    (hbound : ∀ credit, g.credits.count credit < 2 ^ 63) {counts : List ArtistCount}
    (h : artistsByAppearance g = .ok counts) :
    counts.Pairwise fun a b => a.songs = b.songs → a.artist ≤ b.artist := by
  rw [artistsByAppearance_eq_ok_of_plain hplain hbound] at h
  cases h
  refine (pairwise_sortedBy _).imp fun {a b} hle hsongs => ?_
  rw [ArtistCount.mostFrequent, compareLex, hsongs, Nat.compare_eq_eq.mpr rfl] at hle
  exact isLE_compare_iff.mp hle

/-- Three recordings by two artists who share a name. -/
def sharedName : String :=
  Text.lines
    ["@prefix s: <http://schema.org/> .",
      "<r:1> a s:MusicRecording ; s:name \"A\" ; s:byArtist <a:1> .",
      "<r:2> a s:MusicRecording ; s:name \"B\"@en ; s:byArtist <a:2> .",
      "<r:3> a s:MusicRecording ; s:name \"A\" ; s:byArtist <a:1> .",
      "<a:1> s:name \"X\" .",
      "<a:2> s:name \"X\"@en ."]

end Catalog

end Songbook
