import Songbook.Proofs.Catalog.Counts
import Songbook.Proofs.Catalog.Playlists

/-!
# Appearances of artists

The tracks of an artist are found by the address of the artist, but the rows of the answer are told
apart by address and name. So each row has the right number, and an address has as many rows as the
tracks give it names: `appearances_of_artistsApart`. Where they give it two, one artist is listed
twice, with all tracks each time: `appearances_renamedArtist`.
-/

namespace Songbook

open Rdf Catalog

/-- No address of an artist is that of a track or of an album. -/
structure ArtistsApart (ts : List Track) : Prop where
  track : ∀ t ∈ ts, ∀ u ∈ ts, t.artist.address ≠ u.address
  album : ∀ t ∈ ts, ∀ u ∈ ts, t.artist.address ≠ u.album.address

instance (ts : List Track) : Decidable (ArtistsApart ts) :=
  decidable_of_iff ((∀ t ∈ ts, ∀ u ∈ ts, t.artist.address ≠ u.address) ∧
      ∀ t ∈ ts, ∀ u ∈ ts, t.artist.address ≠ u.album.address)
    ⟨fun ⟨track, album⟩ => ⟨track, album⟩, fun h => ⟨h.track, h.album⟩⟩

/-- The addresses of the tracks that are credited to an artist. -/
def creditedTracks (ts : List Track) (artist : String) : Finset String :=
  ((ts.filter (·.artist.address = artist)).map Track.address).toFinset

theorem mem_creditedTracks {ts : List Track} {artist address : String} :
    address ∈ creditedTracks ts artist ↔
      ∃ t ∈ ts, t.artist.address = artist ∧ t.address = address := by
  simp [creditedTracks, and_assoc]

namespace Catalog

variable {g : Graph}

theorem sum_map_ite_eq_countP {α : Type} (test : α → Bool) (as : List α) :
    (as.map fun a => if test a then 1 else 0).sum = as.countP test := by
  induction as with
  | nil => rfl
  | cons a as ih => rw [List.map_cons, List.sum_cons, ih, List.countP_cons, Nat.add_comm]

/-- An artist is counted with each name once for each recording. -/
theorem count_attributions_of_mem {a n : Term} (hn : n ∈ g.objects a Vocabulary.name) :
    g.attributions.count (a, n) = recordingsBy g a := by
  have hrecording (r : Term) : List.count (a, n) ((g.objects r Vocabulary.byArtist).flatMap fun a =>
      (g.objects a Vocabulary.name).map fun n => (a, n)) =
        if (g.objects r Vocabulary.byArtist).contains a then 1 else 0 := by
    rw [(g.nodup_attributions_of_recording r).count]
    refine if_congr ?_ rfl rfl
    simp only [List.mem_flatMap, List.mem_map, Prod.mk.injEq, List.contains_iff_mem]
    constructor
    · rintro ⟨b, hb, m, -, rfl, rfl⟩
      exact hb
    · exact fun ha => ⟨a, ha, n, hn, rfl, rfl⟩
  rw [Graph.attributions, List.count_flatMap, recordingsBy]
  simp only [Function.comp_def, hrecording]
  exact sum_map_ite_eq_countP _ _

end Catalog

namespace Graph

variable {g : Graph} {ts : List Track} {t : Track} {e : Entity}

theorem ArtistsHavePlainNames.count_credits (hplain : g.ArtistsHavePlainNames)
    (credit : Term × String) :
    g.credits.count credit = g.attributions.count (plainAttribution credit) := by
  rw [hplain.attributions_eq]
  exact (List.count_map_of_injective _ _ plainAttribution_injective _).symm

theorem mem_artists_of_ofTracks (h : ofTracks ts = .ok g) {address artist : String} :
    nodeAt artist ∈ g.objects (nodeAt address) Vocabulary.byArtist ↔
      address ∈ creditedTracks ts artist := by
  simp only [mem_objects_of_ofTracks h, Track.mem_described_byArtist, mem_creditedTracks]
  constructor
  · rintro ⟨t, ht, haddress, hartist⟩
    exact ⟨t, ht, (nodeAt_injective hartist).symm, by simpa using haddress.symm⟩
  · rintro ⟨t, ht, rfl, rfl⟩
    exact ⟨t, ht, rfl, rfl⟩

/-- The recordings by an artist are the tracks that are credited to the address. -/
theorem recordingsBy_of_ofTracks (h : ofTracks ts = .ok g) (artist : String) :
    recordingsBy g (nodeAt artist) = (creditedTracks ts artist).card := by
  let addresses := (distinctTracks ts).map Track.address
  have hnodup : addresses.Nodup := nodup_map_firstsBy ts
  have hrecordings : g.recordings.Perm (addresses.map nodeAt) := by
    rw [List.map_map]
    exact recordings_perm_of_ofTracks h
  have hcredited : (addresses.filter (· ∈ creditedTracks ts artist)).toFinset =
      creditedTracks ts artist := by
    ext address
    rw [List.mem_toFinset, List.mem_filter, decide_eq_true_iff, and_iff_right_iff_imp]
    intro hmem
    obtain ⟨t, ht, -, rfl⟩ := mem_creditedTracks.mp hmem
    obtain ⟨u, hu, haddress⟩ : ∃ u ∈ distinctTracks ts, u.address = t.address :=
      exists_mem_firstsBy ht
    exact List.mem_map.mpr ⟨u, hu, haddress⟩
  rw [recordingsBy, hrecordings.countP_eq, List.countP_map, ← hcredited,
    List.toFinset_card_of_nodup (hnodup.filter _), ← List.countP_eq_length_filter]
  refine List.countP_congr fun address _ => ?_
  simp [mem_artists_of_ofTracks h]

/-- An artist has the names that the tracks give to the address, and no others. -/
theorem mem_names_of_artistsApart (h : ofTracks ts = .ok g) (hapart : ArtistsApart ts)
    (ht : t ∈ ts) {name : String} :
    name ∈ g.names (nodeAt t.artist.address) ↔ ∃ u ∈ ts, u.artist = ⟨t.artist.address, name⟩ := by
  rw [mem_names_of_ofTracks h]
  simp only [Track.entities, List.mem_cons, List.not_mem_nil, or_false]
  constructor
  · rintro ⟨u, hu, htrack | hartist | halbum⟩
    · exact absurd (congrArg Entity.address htrack) (hapart.track t ht u hu)
    · exact ⟨u, hu, hartist.symm⟩
    · exact absurd (congrArg Entity.address halbum) (hapart.album t ht u hu)
  · rintro ⟨u, hu, hartist⟩
    exact ⟨u, hu, .inr (.inl hartist.symm)⟩

theorem mem_credits_of_artistsApart (h : ofTracks ts = .ok g) (hapart : ArtistsApart ts)
    {credit : Term × String} :
    credit ∈ g.credits ↔ ∃ t ∈ ts, credit = creditOf t.artist := by
  obtain ⟨a, name⟩ := credit
  rw [mem_credits]
  constructor
  · rintro ⟨r, hr, ha, hname⟩
    obtain ⟨t, -, rfl⟩ := (mem_recordings_of_ofTracks h).mp hr
    obtain ⟨u, hu, hmem⟩ := (mem_objects_of_ofTracks h).mp ha
    obtain ⟨-, rfl⟩ := Track.mem_described_byArtist.mp hmem
    obtain ⟨v, hv, hartist⟩ := (mem_names_of_artistsApart h hapart hu).mp hname
    exact ⟨v, hv, by rw [hartist]; rfl⟩
  · rintro ⟨t, ht, heq⟩
    cases heq
    exact ⟨nodeAt t.address, (mem_recordings_of_ofTracks h).mpr ⟨t, ht, rfl⟩,
      (mem_artists_of_ofTracks h).mpr (mem_creditedTracks.mpr ⟨t, ht, rfl, rfl⟩),
      (mem_names_of_artistsApart h hapart ht).mpr ⟨t, ht, rfl⟩⟩

theorem count_credits_of_artistsApart (h : ofTracks ts = .ok g) (hapart : ArtistsApart ts)
    (ht : t ∈ ts) :
    g.credits.count (creditOf t.artist) = (creditedTracks ts t.artist.address).card := by
  have hname := (mem_names_of_artistsApart h hapart ht).mpr ⟨t, ht, rfl⟩
  rw [(namesArePlain_of_ofTracks h).artists.count_credits, ← recordingsBy_of_ofTracks h]
  exact count_attributions_of_mem (mem_names.mp hname)

/-- Every artist appears with each name that the tracks give. -/
theorem appearances_perm_of_artistsApart (h : ofTracks ts = .ok g) (hapart : ArtistsApart ts) :
    g.appearances.Perm ((ts.map Track.artist).eraseDups.map fun e =>
      ⟨e.name, (creditedTracks ts e.address).card⟩) := by
  have hcredits : g.credits.eraseDups.Perm ((ts.map Track.artist).eraseDups.map creditOf) := by
    rw [← eraseDups_map creditOf_injective, List.map_map]
    refine eraseDups_perm_of_mem_iff fun credit => ?_
    rw [mem_credits_of_artistsApart h hapart, List.mem_map]
    simp only [Function.comp_apply, eq_comm]
  refine (hcredits.map _).trans (List.Perm.of_eq ?_)
  rw [List.map_map]
  refine List.map_congr_left fun e he => ?_
  obtain ⟨t, ht, rfl⟩ := List.mem_map.mp (List.mem_eraseDups.mp he)
  simp only [Function.comp_apply, count_credits_of_artistsApart h hapart ht]
  rfl

end Graph

namespace Catalog

/-- Every address of an artist is answered once with each name that the tracks give to it, and each
time with the number of the distinct tracks that are credited to the address, whatever names they
give. So there is one row for each address exactly if no address has two names. No list in memory
has `2 ^ 63` tracks. -/
theorem appearances_of_artistsApart {ts : List Track} (hvalid : ∀ t ∈ ts, t.Valid)
    (hapart : ArtistsApart ts) (hlength : (distinctTracks ts).length < 2 ^ 63) :
    ∃ (g : Graph) (artists : List Entity), Graph.ofTracks ts = .ok g ∧ artists.Nodup ∧
      (∀ e, e ∈ artists ↔ ∃ t ∈ ts, t.artist = e) ∧
      artistsByAppearance g =
        .ok (artists.map fun e => ⟨e.name, (creditedTracks ts e.address).card⟩) ∧
      ((artists.map Entity.address).Nodup ↔ ∀ t ∈ ts, ∀ u ∈ ts,
        t.artist.address = u.artist.address → t.artist.name = u.artist.name) := by
  obtain ⟨g, h⟩ : ∃ g, Graph.ofTracks ts = .ok g :=
    ⟨_, Graph.ofTracks_eq_ok_iff.mpr ⟨hvalid, rfl⟩⟩
  have hplain := Graph.namesArePlain_of_ofTracks h
  let row (e : Entity) : ArtistCount := ⟨e.name, (creditedTracks ts e.address).card⟩
  let artists := sortedBy (fun e f => ArtistCount.mostFrequent (row e) (row f))
    (ts.map Track.artist).eraseDups
  have hperm : artists.Perm (ts.map Track.artist).eraseDups := sortedBy_perm _ _
  have hnodup : artists.Nodup := hperm.nodup_iff.mpr (nodup_eraseDups _)
  have hmem : ∀ e, e ∈ artists ↔ ∃ t ∈ ts, t.artist = e := by
    intro e
    rw [hperm.mem_iff, List.mem_eraseDups, List.mem_map]
  have hsmall : ∀ credit, g.credits.count credit < 2 ^ 63 := by
    intro credit
    have hrecordings := (Graph.recordings_perm_of_ofTracks h).length_eq
    have hle := g.count_attributions_le (Graph.plainAttribution credit)
    rw [List.length_map] at hrecordings
    rw [hplain.artists.count_credits]
    omega
  have hsorted : artists.map row =
      sortedBy ArtistCount.mostFrequent ((ts.map Track.artist).eraseDups.map row) :=
    map_sortedBy fun _ _ _ _ => rfl
  have hanswer : artistsByAppearance g = .ok (artists.map row) := by
    rw [artistsByAppearance_eq_ok_of_plain hplain.artists hsmall,
      sortedBy_eq_of_perm (Graph.appearances_perm_of_artistsApart h hapart), hsorted]
  refine ⟨g, artists, h, hnodup, hmem, hanswer, ?_⟩
  constructor
  · intro haddresses t ht u hu haddress
    have heq : t.artist = u.artist := List.inj_on_of_nodup_map haddresses
      ((hmem _).mpr ⟨t, ht, rfl⟩) ((hmem _).mpr ⟨u, hu, rfl⟩) haddress
    rw [heq]
  · intro hnames
    refine hnodup.map_on fun e he f hf haddress => ?_
    obtain ⟨t, ht, rfl⟩ := (hmem e).mp he
    obtain ⟨u, hu, rfl⟩ := (hmem f).mp hf
    exact Entity.ext haddress (hnames t ht u hu haddress)

/-- Two songs by one artist, who goes by another name the second time. -/
def renamedArtist : List Track :=
  [⟨"spotify:track:1", "One", 1000, ⟨"spotify:artist:x", "X"⟩, ⟨"spotify:album:a", "A"⟩⟩,
    ⟨"spotify:track:2", "Two", 1000, ⟨"spotify:artist:x", "Y"⟩, ⟨"spotify:album:a", "A"⟩⟩]

/-- Both names are listed with both songs. -/
theorem appearances_of_artistsApart_renamedArtist :
    ∃ (g : Graph) (artists : List Entity), Graph.ofTracks renamedArtist = .ok g ∧
      (∀ e, e ∈ artists ↔ ∃ t ∈ renamedArtist, t.artist = e) ∧
      artistsByAppearance g = .ok (artists.map fun e => ⟨e.name, 2⟩) ∧
      ¬ (artists.map Entity.address).Nodup := by
  have hvalid : ∀ t ∈ renamedArtist, t.Valid := by decide +kernel
  obtain ⟨g, artists, h, -, hmem, hanswer, hnodup⟩ :=
    appearances_of_artistsApart hvalid (by decide) (by decide)
  have hcount : ∀ t ∈ renamedArtist, (creditedTracks renamedArtist t.artist.address).card = 2 := by
    decide
  refine ⟨g, artists, h, hmem, ?_, ?_⟩
  · rw [hanswer]
    refine congrArg Except.ok (List.map_congr_left fun e he => ?_)
    obtain ⟨t, ht, rfl⟩ := (hmem e).mp he
    rw [hcount t ht]
  · rw [hnodup]
    decide

/-- The one artist has two rows. -/
theorem appearances_renamedArtist :
    ∃ g, Graph.ofTracks renamedArtist = .ok g ∧
      artistsByAppearance g = .ok [⟨"X", 2⟩, ⟨"Y", 2⟩] ∧
      (renamedArtist.map (·.artist.address)).toFinset.card = 1 := by
  have hvalid : ∀ t ∈ renamedArtist, t.Valid := by decide +kernel
  have h := Graph.ofTracks_eq_ok_iff.mpr ⟨hvalid, rfl⟩
  refine ⟨_, h, ?_, by decide⟩
  rw [artistsByAppearance, Graph.select, textsSpell.artistsByAppearance]
  decide +kernel

end Catalog

end Songbook
