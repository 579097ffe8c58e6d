import Songbook.Proofs.Catalog.Playlists

/-!
# The songs of each name

The artists that are listed alone, each with what is found for it, are the songs by artist and
title once more: `Graph.flatMap_songsByName`. On a graph of tracks no artist is without a song.
-/

namespace Songbook

open Std Rdf Catalog

namespace Graph

variable {g : Graph} {ts : List Track} {artist : String} {titles : List String}

/-- Every name of an artist with the titles of the songs by artists of this name. -/
def songsByName (g : Graph) : List (String × List String) :=
  (sortedBy compare (g.credits.map Prod.snd).eraseDups).map fun name =>
    (name, sortedBy compare ((g.artistSongs.filter (·.artist = name)).map ArtistSong.title))

theorem mem_songsByName :
    (artist, titles) ∈ g.songsByName ↔ artist ∈ g.credits.map Prod.snd ∧
      titles = sortedBy compare
        ((g.artistSongs.filter (·.artist = artist)).map ArtistSong.title) := by
  rw [songsByName, List.mem_map]
  constructor
  · rintro ⟨name, hname, heq⟩
    obtain ⟨rfl, htitles⟩ := Prod.mk.inj heq
    rw [(sortedBy_perm _ _).mem_iff, List.mem_eraseDups] at hname
    exact ⟨hname, htitles.symm⟩
  · rintro ⟨hname, rfl⟩
    refine ⟨artist, ?_, rfl⟩
    rw [(sortedBy_perm _ _).mem_iff, List.mem_eraseDups]
    exact hname

theorem allArtists_eq_songsByName (h : g.NamesArePlain) :
    allArtists g = .ok (g.songsByName.map Prod.fst) := by
  rw [allArtists_eq h, songsByName, List.map_map]
  exact congrArg Except.ok (List.map_id _).symm

theorem songsForArtist_eq_songsByName (h : g.NamesArePlain)
    (hmem : (artist, titles) ∈ g.songsByName) : songsForArtist g artist = .ok titles := by
  obtain ⟨-, rfl⟩ := mem_songsByName.mp hmem
  exact songsForArtist_eq h artist

/-- What is found for a name is what the songs by artist and title have for it. -/
theorem titles_of_mem_songsByName (hmem : (artist, titles) ∈ g.songsByName) :
    titles = ((sortedBy ArtistSong.byArtist g.artistSongs).filter (·.artist = artist)).map
      ArtistSong.title := by
  obtain ⟨-, rfl⟩ := mem_songsByName.mp hmem
  rw [filter_sortedBy]
  refine (map_sortedBy fun a ha b hb => ?_).symm
  have ha' := of_decide_eq_true (List.mem_filter.mp ha).2
  have hb' := of_decide_eq_true (List.mem_filter.mp hb).2
  exact ArtistSong.byArtist_of_eq (ha'.trans hb'.symm)

/-- The songs of the names, one name after the other, are the songs by artist and title. -/
theorem flatMap_songsByName (g : Graph) :
    (g.songsByName.flatMap fun listed => listed.2.map (ArtistSong.mk listed.1)) =
      sortedBy ArtistSong.byArtist g.artistSongs := by
  let names := sortedBy compare (g.credits.map Prod.snd).eraseDups
  let songsOf (name : String) : List ArtistSong :=
    (sortedBy compare ((g.artistSongs.filter (·.artist = name)).map ArtistSong.title)).map
      (ArtistSong.mk name)
  have hsongs (name : String) : (songsOf name).Perm (g.artistSongs.filter (·.artist = name)) := by
    refine ((sortedBy_perm _ _).map _).trans (List.Perm.of_eq ?_)
    rw [List.map_map]
    refine (List.map_congr_left fun song hsong => ?_).trans (List.map_id _)
    rw [← of_decide_eq_true (List.mem_filter.mp hsong).2]
    rfl
  have hsorted : names.Pairwise (· < ·) := pairwise_lt_sortedBy (nodup_eraseDups _)
  have hnodup : names.Nodup := hsorted.imp fun h => Std.ne_of_lt h
  rw [songsByName, List.flatMap_map]
  change names.flatMap songsOf = _
  apply eq_sortedBy
  · refine (List.Perm.flatMap_left _ fun name _ => hsongs name).trans ?_
    refine flatMap_filter_perm hnodup fun song hsong => ?_
    obtain ⟨r, hr, -, a, ha, hname⟩ := mem_artistSongs.mp hsong
    rw [(sortedBy_perm _ _).mem_iff, List.mem_eraseDups]
    exact List.mem_map.mpr ⟨(a, song.artist), mem_credits.mpr ⟨r, hr, ha, hname⟩, rfl⟩
  · -- titles are in order within a name, and the names decide between two of them
    refine List.pairwise_flatMap.mpr ⟨fun name _ => ?_, hsorted.imp fun {m n} hlt => ?_⟩
    · refine List.pairwise_map.mpr ((pairwise_sortedBy _).imp fun {s t} hle => ?_)
      have horder : ArtistSong.byArtist ⟨name, s⟩ ⟨name, t⟩ = compare s t :=
        ArtistSong.byArtist_of_eq rfl
      rwa [horder]
    · intro x hx y hy
      obtain ⟨s, -, rfl⟩ := List.mem_map.mp hx
      obtain ⟨t, -, rfl⟩ := List.mem_map.mp hy
      have hcompare : compare m n = .lt := compare_lt_iff_lt.mpr hlt
      simp [ArtistSong.byArtist, compareLex, compareOn, hcompare]

/-- Every artist of a playlist has a song. -/
theorem titles_ne_nil_of_mem_songsByName (h : ofTracks ts = .ok g)
    (hmem : (artist, titles) ∈ g.songsByName) : titles ≠ [] := by
  obtain ⟨hartist, rfl⟩ := mem_songsByName.mp hmem
  obtain ⟨⟨a, artist⟩, hcredit, rfl⟩ := List.mem_map.mp hartist
  obtain ⟨r, hr, ha, hname⟩ := mem_credits.mp hcredit
  obtain ⟨t, ht, rfl⟩ := (mem_recordings_of_ofTracks h).mp hr
  have htitle : t.name ∈ g.names (nodeAt t.address) :=
    (mem_names_of_ofTracks h).mpr ⟨t, ht, List.mem_cons_self⟩
  have hsong : ⟨artist, t.name⟩ ∈ g.artistSongs := mem_artistSongs.mpr ⟨_, hr, htitle, a, ha, hname⟩
  have hfound : ⟨artist, t.name⟩ ∈ g.artistSongs.filter (·.artist = artist) :=
    List.mem_filter.mpr ⟨hsong, decide_eq_true rfl⟩
  exact List.ne_nil_of_mem
    ((sortedBy_perm compare _).mem_iff.mpr (List.mem_map_of_mem (f := ArtistSong.title) hfound))

/-- There are artists to list if there are tracks. -/
theorem songsByName_eq_nil_iff (h : ofTracks ts = .ok g) : g.songsByName = [] ↔ ts = [] := by
  constructor
  · intro hnil
    refine List.eq_nil_iff_forall_not_mem.mpr fun t ht => ?_
    have hname : t.artist.name ∈ g.names (nodeAt t.artist.address) :=
      (mem_names_of_ofTracks h).mpr ⟨t, ht, List.mem_cons_of_mem _ List.mem_cons_self⟩
    have hcredited : nodeAt t.artist.address ∈ g.objects (nodeAt t.address) Vocabulary.byArtist :=
      (mem_objects_of_ofTracks h).mpr ⟨t, ht, Track.mem_described_byArtist.mpr ⟨rfl, rfl⟩⟩
    have hcredit : (nodeAt t.artist.address, t.artist.name) ∈ g.credits := mem_credits.mpr
      ⟨_, (mem_recordings_of_ofTracks h).mpr ⟨t, ht, rfl⟩, hcredited, hname⟩
    have hlisted := mem_songsByName.mpr ⟨List.mem_map_of_mem (f := Prod.snd) hcredit, rfl⟩
    rw [hnil] at hlisted
    cases hlisted
  · rintro rfl
    refine List.eq_nil_iff_forall_not_mem.mpr fun listed hlisted => ?_
    obtain ⟨credit, hcredit, -⟩ := List.mem_map.mp (mem_songsByName.mp hlisted).1
    obtain ⟨r, hr, -⟩ := mem_credits.mp hcredit
    obtain ⟨t, ht, -⟩ := (mem_recordings_of_ofTracks h).mp hr
    cases ht

end Graph

end Songbook
