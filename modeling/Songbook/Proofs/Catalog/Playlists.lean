import Mathlib.Data.List.Count
import Songbook.Proofs.Catalog.Names
import Songbook.Proofs.Reloading

/-!
# Answers for playlists

The graph of a playlist holds every fact once, and tracks, artists and albums may share their
addresses. Where the playlist does not contradict itself, every question is answered with what a
direct look at the tracks yields, in which later occurrences of a track are left out. Where it does
contradict itself, the answers still do not depend on the order of its tracks.
-/

namespace Songbook

open Rdf Catalog

attribute [ext] Entity

/-- Tracks that do not contradict each other: what has one address has one name, and tracks with
one address have one length in seconds, one artist and one album. -/
structure Coherent (ts : List Track) : Prop where
  names : ∀ e ∈ ts.flatMap Track.entities, ∀ f ∈ ts.flatMap Track.entities,
    e.address = f.address → e.name = f.name
  tracks : ∀ t ∈ ts, ∀ u ∈ ts, t.address = u.address →
    t.seconds = u.seconds ∧ t.artist.address = u.artist.address ∧
      t.album.address = u.album.address

instance (ts : List Track) : Decidable (Coherent ts) :=
  decidable_of_iff ((∀ e ∈ ts.flatMap Track.entities, ∀ f ∈ ts.flatMap Track.entities,
      e.address = f.address → e.name = f.name) ∧
    ∀ t ∈ ts, ∀ u ∈ ts, t.address = u.address →
      t.seconds = u.seconds ∧ t.artist.address = u.artist.address ∧
        t.album.address = u.album.address)
    ⟨fun ⟨names, tracks⟩ => ⟨names, tracks⟩, fun h => ⟨h.names, h.tracks⟩⟩

/-- The tracks of a playlist without later occurrences of a track. -/
def distinctTracks (ts : List Track) : List Track := firstsBy Track.address ts

/-- The artists of a playlist without later occurrences of an artist. -/
def distinctArtists (ts : List Track) : List Entity :=
  firstsBy Entity.address ((distinctTracks ts).map Track.artist)

/-- The node with an address. -/
def nodeAt (address : String) : Term := .node (.iri ⟨address⟩)

theorem nodeAt_injective : Function.Injective nodeAt := by
  intro a b h
  simpa [nodeAt] using h

namespace Graph

variable {g : Graph} {ts : List Track}

/-! ### What is found -/

theorem mem_triples_of_ofTracks (h : ofTracks ts = .ok g) {x : Triple} :
    x ∈ g.triples ↔ ∃ t ∈ ts, x ∈ t.described := by
  obtain ⟨-, rfl⟩ := ofTracks_eq_ok_iff.mp h
  rw [mem_ofTriples, List.mem_flatMap]

theorem triples_perm_of_ofTracks {h : Graph} {us : List Track} (hg : ofTracks ts = .ok g)
    (hh : ofTracks us = .ok h) (hsame : ∀ t, t ∈ ts ↔ t ∈ us) : g.triples.Perm h.triples := by
  refine (List.perm_ext_iff_of_nodup g.nodup h.nodup).mpr fun x => ?_
  rw [mem_triples_of_ofTracks hg, mem_triples_of_ofTracks hh]
  simp only [hsame]

theorem mem_recordings_of_ofTracks (h : ofTracks ts = .ok g) {r : Term} :
    r ∈ g.recordings ↔ ∃ t ∈ ts, r = nodeAt t.address := by
  rw [recordings, mem_subjects]
  constructor
  · rintro ⟨n, rfl, hn⟩
    obtain ⟨t, ht, hmem⟩ := (mem_triples_of_ofTracks h).mp hn
    obtain ⟨rfl, -⟩ := Track.mem_described_rdfType.mp hmem
    exact ⟨t, ht, rfl⟩
  · rintro ⟨t, ht, rfl⟩
    exact ⟨_, rfl, (mem_triples_of_ofTracks h).mpr
      ⟨t, ht, Track.mem_described_rdfType.mpr ⟨rfl, rfl⟩⟩⟩

theorem mem_objects_of_ofTracks (h : ofTracks ts = .ok g) {address : String} {property : Iri}
    {o : Term} :
    o ∈ g.objects (nodeAt address) property ↔
      ∃ t ∈ ts, ⟨.iri ⟨address⟩, property, o⟩ ∈ t.described := by
  rw [mem_objects, ← mem_triples_of_ofTracks h]
  constructor
  · rintro ⟨n, heq, hmem⟩
    cases heq
    exact hmem
  · exact fun hmem => ⟨_, rfl, hmem⟩

theorem mem_names_of_ofTracks (h : ofTracks ts = .ok g) {address name : String} :
    name ∈ g.names (nodeAt address) ↔ ∃ t ∈ ts, ⟨address, name⟩ ∈ t.entities := by
  rw [mem_names, mem_objects_of_ofTracks h]
  refine exists_congr fun t => and_congr_right fun _ => ?_
  rw [Track.mem_described_name]
  constructor
  · rintro ⟨e, he, haddress, hname⟩
    cases haddress
    cases hname
    exact he
  · exact fun he => ⟨_, he, rfl, rfl⟩

theorem objects_eq_singleton {about o : Term} {property : Iri}
    (ho : o ∈ g.objects about property) (hunique : ∀ o' ∈ g.objects about property, o' = o) :
    g.objects about property = [o] := by
  refine List.perm_singleton.mp ((List.perm_ext_iff_of_nodup nodup_objects (by simp)).mpr ?_)
  intro o'
  rw [List.mem_singleton]
  exact ⟨hunique o', fun heq => heq ▸ ho⟩

/-- A property in which the tracks at one address agree has one value. -/
theorem objects_of_agree (h : ofTracks ts = .ok g) {property : Iri} {value : Track → Term}
    (hdescribed : ∀ (t : Track) (n : Node) (o : Term),
      ⟨n, property, o⟩ ∈ t.described ↔ n = .iri ⟨t.address⟩ ∧ o = value t)
    (hagree : ∀ t ∈ ts, ∀ u ∈ ts, t.address = u.address → value t = value u)
    {t : Track} (ht : t ∈ ts) : g.objects (nodeAt t.address) property = [value t] := by
  refine objects_eq_singleton ?_ fun o ho => ?_
  · exact (mem_objects_of_ofTracks h).mpr ⟨t, ht, (hdescribed _ _ _).mpr ⟨rfl, rfl⟩⟩
  · obtain ⟨u, hu, hmem⟩ := (mem_objects_of_ofTracks h).mp ho
    obtain ⟨heq, rfl⟩ := (hdescribed _ _ _).mp hmem
    have haddress : u.address = t.address := by
      simpa using heq.symm
    exact hagree u hu t ht haddress

section Coherent

variable (h : ofTracks ts = .ok g) (hts : Coherent ts)

include h hts

theorem names_of_coherent {e : Entity} (he : e ∈ ts.flatMap Track.entities) :
    g.names (nodeAt e.address) = [e.name] := by
  have hobjects : g.objects (nodeAt e.address) Vocabulary.name = [.literal (.plain e.name)] := by
    obtain ⟨t, ht, het⟩ := List.mem_flatMap.mp he
    refine objects_eq_singleton ?_ fun o ho => ?_
    · exact (mem_objects_of_ofTracks h).mpr
        ⟨t, ht, Track.mem_described_name.mpr ⟨e, het, rfl, rfl⟩⟩
    · obtain ⟨u, hu, hmem⟩ := (mem_objects_of_ofTracks h).mp ho
      obtain ⟨f, hf, heq, rfl⟩ := Track.mem_described_name.mp hmem
      have haddress : f.address = e.address := by
        simpa using heq.symm
      rw [hts.names f (List.mem_flatMap.mpr ⟨u, hu, hf⟩) e he haddress]
  rw [names, hobjects]
  rfl

theorem lengths_of_coherent {t : Track} (ht : t ∈ ts) :
    g.lengths (nodeAt t.address) = [t.seconds] := by
  have hobjects : g.objects (nodeAt t.address) Vocabulary.duration =
      [.literal (.integer (Int64.ofNat t.seconds))] := by
    refine objects_of_agree h (fun _ _ _ => Track.mem_described_duration) ?_ ht
    intro t ht u hu haddress
    rw [(hts.tracks t ht u hu haddress).1]
  have htoInt : (Int64.ofNat t.seconds).toInt = t.seconds :=
    Int64.toInt_ofNat_of_lt (Nat.lt_trans t.seconds_lt (by decide))
  rw [lengths, hobjects, List.filterMap_cons, lengthOf?_integer (by omega), htoInt]
  rfl

theorem artists_of_coherent {t : Track} (ht : t ∈ ts) :
    g.objects (nodeAt t.address) Vocabulary.byArtist = [nodeAt t.artist.address] := by
  refine objects_of_agree h (fun _ _ _ => Track.mem_described_byArtist) ?_ ht
  intro t ht u hu haddress
  rw [(hts.tracks t ht u hu haddress).2.1]

theorem albums_of_coherent {t : Track} (ht : t ∈ ts) :
    g.objects (nodeAt t.address) Vocabulary.inAlbum = [nodeAt t.album.address] := by
  refine objects_of_agree h (fun _ _ _ => Track.mem_described_inAlbum) ?_ ht
  intro t ht u hu haddress
  rw [(hts.tracks t ht u hu haddress).2.2]

end Coherent

/-! ### Recordings -/

theorem mem_of_mem_distinctTracks {t : Track} (ht : t ∈ distinctTracks ts) : t ∈ ts :=
  (firstsBy_sublist ts).subset ht

/-- The recordings are the tracks without later occurrences. -/
theorem recordings_perm_of_ofTracks (h : ofTracks ts = .ok g) :
    g.recordings.Perm ((distinctTracks ts).map fun t => nodeAt t.address) := by
  have hnodup : ((distinctTracks ts).map fun t => nodeAt t.address).Nodup := by
    have haddresses : ((distinctTracks ts).map Track.address).Nodup := nodup_map_firstsBy ts
    have hnodes := haddresses.map nodeAt_injective
    rwa [List.map_map] at hnodes
  refine (List.perm_ext_iff_of_nodup nodup_recordings hnodup).mpr fun r => ?_
  rw [mem_recordings_of_ofTracks h, List.mem_map]
  constructor
  · rintro ⟨t, ht, rfl⟩
    obtain ⟨u, hu, haddress⟩ : ∃ u ∈ distinctTracks ts, u.address = t.address :=
      exists_mem_firstsBy ht
    exact ⟨u, hu, by rw [haddress]⟩
  · rintro ⟨t, ht, rfl⟩
    exact ⟨t, mem_of_mem_distinctTracks ht, rfl⟩

/-- What recordings lead to is what tracks lead to, if every track leads to one thing. -/
theorem flatMap_recordings_perm (h : ofTracks ts = .ok g) {β : Type} {f : Term → List β}
    {k : Track → β} (hf : ∀ t ∈ ts, f (nodeAt t.address) = [k t]) :
    (g.recordings.flatMap f).Perm ((distinctTracks ts).map k) := by
  refine ((recordings_perm_of_ofTracks h).flatMap_right f).trans (List.Perm.of_eq ?_)
  rw [List.flatMap_map, List.map_eq_flatMap]
  exact List.flatMap_congr fun t ht => hf t (mem_of_mem_distinctTracks ht)

section Coherent

variable (h : ofTracks ts = .ok g) (hts : Coherent ts)

include h hts

theorem names_track_of_coherent {t : Track} (ht : t ∈ ts) :
    g.names (nodeAt t.address) = [t.name] :=
  names_of_coherent h hts (e := ⟨t.address, t.name⟩)
    (List.mem_flatMap.mpr ⟨t, ht, by simp [Track.entities]⟩)

theorem names_artist_of_coherent {t : Track} (ht : t ∈ ts) :
    g.names (nodeAt t.artist.address) = [t.artist.name] :=
  names_of_coherent h hts (List.mem_flatMap.mpr ⟨t, ht, by simp [Track.entities]⟩)

theorem names_album_of_coherent {t : Track} (ht : t ∈ ts) :
    g.names (nodeAt t.album.address) = [t.album.name] :=
  names_of_coherent h hts (List.mem_flatMap.mpr ⟨t, ht, by simp [Track.entities]⟩)

theorem songs_perm_of_coherent :
    g.songs.Perm ((distinctTracks ts).map fun t => ⟨t.name, t.seconds⟩) :=
  flatMap_recordings_perm h fun t ht => by
    simp [names_track_of_coherent h hts ht, lengths_of_coherent h hts ht]

theorem allLengths_perm_of_coherent :
    g.allLengths.Perm ((distinctTracks ts).map Track.seconds) :=
  flatMap_recordings_perm h fun _ ht => lengths_of_coherent h hts ht

theorem albumSongs_perm_of_coherent :
    g.albumSongs.Perm ((distinctTracks ts).map fun t => ⟨t.album.name, t.name⟩) :=
  flatMap_recordings_perm h fun t ht => by
    simp [names_track_of_coherent h hts ht, albums_of_coherent h hts ht,
      names_album_of_coherent h hts ht]

theorem artistSongs_perm_of_coherent :
    g.artistSongs.Perm ((distinctTracks ts).map fun t => ⟨t.artist.name, t.name⟩) :=
  flatMap_recordings_perm h fun t ht => by
    simp [names_track_of_coherent h hts ht, artists_of_coherent h hts ht,
      names_artist_of_coherent h hts ht]

/-- The credit of an artist. -/
def creditOf (e : Entity) : Term × String := (nodeAt e.address, e.name)

omit h hts in
theorem creditOf_injective : Function.Injective creditOf := by
  rintro ⟨a, s⟩ ⟨b, t⟩ heq
  obtain ⟨haddress, hname⟩ := Prod.mk.inj heq
  exact Entity.ext (nodeAt_injective haddress) hname

theorem credits_perm_of_coherent :
    g.credits.Perm (((distinctTracks ts).map Track.artist).map creditOf) := by
  rw [List.map_map]
  exact flatMap_recordings_perm h fun t ht => by
    simp [artists_of_coherent h hts ht, names_artist_of_coherent h hts ht, creditOf]

omit h in
theorem artist_eq_of_coherent {t u : Track} (ht : t ∈ ts) (hu : u ∈ ts)
    (haddress : t.artist.address = u.artist.address) : t.artist = u.artist := by
  have hname := hts.names t.artist (List.mem_flatMap.mpr ⟨t, ht, by simp [Track.entities]⟩)
    u.artist (List.mem_flatMap.mpr ⟨u, hu, by simp [Track.entities]⟩) haddress
  exact Entity.ext haddress hname

omit h in
/-- The artists are told apart by their addresses. -/
theorem distinctArtists_perm_of_coherent :
    ((distinctTracks ts).map Track.artist).eraseDups.Perm (distinctArtists ts) := by
  have hnodup : (distinctArtists ts).Nodup := (nodup_map_firstsBy _).of_map
  refine (List.perm_ext_iff_of_nodup (nodup_eraseDups _) hnodup).mpr fun e => ?_
  rw [List.mem_eraseDups]
  constructor
  · intro he
    obtain ⟨f, hf, haddress⟩ : ∃ f ∈ distinctArtists ts, f.address = e.address :=
      exists_mem_firstsBy he
    obtain ⟨t, ht, rfl⟩ := List.mem_map.mp he
    obtain ⟨u, hu, rfl⟩ := List.mem_map.mp ((firstsBy_sublist _).subset hf)
    rw [← artist_eq_of_coherent hts (mem_of_mem_distinctTracks hu) (mem_of_mem_distinctTracks ht)
      haddress]
    exact hf
  · exact fun he => (firstsBy_sublist _).subset he

/-- Artists appear as often as their address. -/
theorem appearances_perm_of_coherent :
    g.appearances.Perm ((distinctArtists ts).map fun e =>
      ⟨e.name, (distinctTracks ts).countP (·.artist.address = e.address)⟩) := by
  let artists := (distinctTracks ts).map Track.artist
  have hcredits : g.credits.Perm (artists.map creditOf) := credits_perm_of_coherent h hts
  -- a credit is counted as often as its artist occurs, and artists are told apart by address
  have hcount : ∀ e ∈ artists, g.credits.count (creditOf e) =
      (distinctTracks ts).countP (·.artist.address = e.address) := by
    intro e he
    obtain ⟨t, ht, rfl⟩ := List.mem_map.mp he
    rw [hcredits.count_eq, List.count_map_of_injective _ _ creditOf_injective, List.count,
      List.countP_map]
    refine List.countP_congr fun u hu => ?_
    simp only [Function.comp_apply, beq_iff_eq, decide_eq_true_eq]
    exact ⟨fun heq => heq ▸ rfl, artist_eq_of_coherent hts (mem_of_mem_distinctTracks hu)
      (mem_of_mem_distinctTracks ht)⟩
  have hdistinct : g.credits.eraseDups.Perm ((distinctArtists ts).map creditOf) := by
    refine (eraseDups_perm hcredits).trans ?_
    rw [eraseDups_map creditOf_injective]
    exact (distinctArtists_perm_of_coherent hts).map creditOf
  refine (hdistinct.map _).trans (List.Perm.of_eq ?_)
  rw [List.map_map]
  refine List.map_congr_left fun e he => ?_
  have hmem : e ∈ artists := (firstsBy_sublist _).subset he
  simp only [Function.comp_apply, hcount e hmem]
  rfl

end Coherent

end Graph

namespace Catalog

/-- Every question about the graph of a coherent playlist is answered with what its distinct
tracks say directly. The sum of all lengths is answered wherever it is below `2 ^ 63`, and so are
the numbers of tracks, of which no list in memory has more. -/
theorem answers_of_coherent {ts : List Track} (hvalid : ∀ t ∈ ts, t.Valid) (hts : Coherent ts) :
    ∃ g, Graph.ofTracks ts = .ok g ∧
      ((distinctTracks ts).length < 2 ^ 63 → songCount g = .ok (distinctTracks ts).length) ∧
      songsByLength g = .ok (sortedBy Song.longestFirst
        ((distinctTracks ts).map fun t => ⟨t.name, t.seconds⟩)) ∧
      (((distinctTracks ts).map Track.seconds).sum < 2 ^ 63 →
        totalLength g = .ok ((distinctTracks ts).map Track.seconds).sum) ∧
      songsByAlbum g = .ok (sortedBy AlbumSong.byAlbum
        ((distinctTracks ts).map fun t => ⟨t.album.name, t.name⟩)) ∧
      songsByArtist g = .ok (sortedBy ArtistSong.byArtist
        ((distinctTracks ts).map fun t => ⟨t.artist.name, t.name⟩)) ∧
      ((distinctTracks ts).length < 2 ^ 63 →
        artistsByAppearance g = .ok (sortedBy ArtistCount.mostFrequent
          ((distinctArtists ts).map fun e =>
            ⟨e.name, (distinctTracks ts).countP (·.artist.address = e.address)⟩))) ∧
      allArtists g = .ok (sortedBy compare ((distinctTracks ts).map (·.artist.name)).eraseDups) ∧
      ∀ name, songsForArtist g name = .ok (sortedBy compare
        (((distinctTracks ts).filter (·.artist.name = name)).map Track.name)) := by
  obtain ⟨g, h⟩ : ∃ g, Graph.ofTracks ts = .ok g :=
    ⟨_, Graph.ofTracks_eq_ok_iff.mpr ⟨hvalid, rfl⟩⟩
  have hplain := Graph.namesArePlain_of_ofTracks h
  have hlength : g.recordings.length = (distinctTracks ts).length := by
    rw [(Graph.recordings_perm_of_ofTracks h).length_eq, List.length_map]
  have hcredits := Graph.credits_perm_of_coherent h hts
  refine ⟨g, h, fun hbound => ?_, ?_, fun hsum => ?_, ?_, ?_, fun hbound => ?_, ?_, fun name => ?_⟩
  · rw [songCount_eq_ok (by omega), hlength]
  · rw [songsByLength_eq hplain.recordings,
      sortedBy_eq_of_perm (Graph.songs_perm_of_coherent h hts)]
  · have heq := (Graph.allLengths_perm_of_coherent h hts).sum_nat
    rw [totalLength_eq, heq, if_pos hsum]
  · rw [songsByAlbum_eq hplain, sortedBy_eq_of_perm (Graph.albumSongs_perm_of_coherent h hts)]
  · rw [songsByArtist_eq hplain, sortedBy_eq_of_perm (Graph.artistSongs_perm_of_coherent h hts)]
  · have hcreditsLength : g.credits.length = (distinctTracks ts).length := by
      rw [hcredits.length_eq, List.length_map, List.length_map]
    rw [artistsByAppearance_eq_ok hplain (by omega),
      sortedBy_eq_of_perm (Graph.appearances_perm_of_coherent h hts)]
  · have hnames := eraseDups_perm (hcredits.map Prod.snd)
    rw [List.map_map, List.map_map] at hnames
    rw [allArtists_eq hplain, sortedBy_eq_of_perm hnames]
    rfl
  · have htitles := ((Graph.artistSongs_perm_of_coherent h hts).filter (·.artist = name)).map
      ArtistSong.title
    rw [List.filter_map, List.map_map] at htitles
    rw [songsForArtist_eq hplain, sortedBy_eq_of_perm htitles]
    rfl

/-- A playlist with a repeated song, whose second occurrence is longer by less than a second. -/
def repeatedSong : List Track :=
  let artist : Entity := ⟨"spotify:artist:x", "X"⟩
  [⟨"spotify:track:1", "Short", 61000, artist, ⟨"spotify:album:a", "A"⟩⟩,
    ⟨"spotify:track:2", "Long", 200000, artist, ⟨"spotify:album:b", "B"⟩⟩,
    ⟨"spotify:track:1", "Short", 61999, artist, ⟨"spotify:album:a", "A"⟩⟩]

/-- A repeated song is counted once, and in whole seconds. -/
theorem answers_repeatedSong :
    ∃ g, Graph.ofTracks repeatedSong = .ok g ∧ songCount g = .ok 2 ∧
      songsByLength g = .ok [⟨"Long", 200⟩, ⟨"Short", 61⟩] ∧ totalLength g = .ok 261 ∧
      artistsByAppearance g = .ok [⟨"X", 2⟩] := by
  have hvalid : ∀ t ∈ repeatedSong, t.Valid := by decide +kernel
  have hcoherent : Coherent repeatedSong := by decide +kernel
  obtain ⟨g, hg, hcount, hsongs, htotal, -, -, happearances, -⟩ :=
    answers_of_coherent hvalid hcoherent
  refine ⟨g, hg, hcount (by decide +kernel), ?_, htotal (by decide +kernel), ?_⟩
  · rw [hsongs]
    cbv
  · rw [happearances (by decide +kernel)]
    decide +kernel

/-! ### Order and repetition -/

/-- Playlists with the same tracks, in whatever order and however often, have graphs with the same
triples, and every question about these has one answer. -/
theorem answers_of_same_tracks {ts us : List Track} (hvalid : ∀ t ∈ ts, t.Valid)
    (hsame : ∀ t, t ∈ ts ↔ t ∈ us) :
    ∃ g h, Graph.ofTracks ts = .ok g ∧ Graph.ofTracks us = .ok h ∧
      g.triples.Perm h.triples ∧ g.size = h.size ∧ AnswersAlike g h := by
  have hvalid' : ∀ u ∈ us, u.Valid := fun u hu => hvalid u ((hsame u).mpr hu)
  have hg := Graph.ofTracks_eq_ok_iff.mpr ⟨hvalid, rfl⟩
  have hh := Graph.ofTracks_eq_ok_iff.mpr ⟨hvalid', rfl⟩
  refine ⟨_, _, hg, hh, ?_⟩
  have hperm := Graph.triples_perm_of_ofTracks hg hh hsame
  exact ⟨hperm, hperm.length_eq, answersAlike_of_perm hperm (Graph.namesArePlain_of_ofTracks hg)⟩

/-- Two songs with one address, which disagree about everything else. -/
def clashingSongs : List Track :=
  [⟨"spotify:track:1", "Short", 61000, ⟨"spotify:artist:x", "X"⟩, ⟨"spotify:album:a", "A"⟩⟩,
    ⟨"spotify:track:1", "Long", 200000, ⟨"spotify:artist:x", "Y"⟩, ⟨"spotify:album:b", "A"⟩⟩]

/-- The second of two songs may be played again before the first. -/
theorem answers_clashingSongs :
    ∃ g h, Graph.ofTracks clashingSongs = .ok g ∧
      Graph.ofTracks (clashingSongs.reverse ++ clashingSongs) = .ok h ∧
      g.triples.Perm h.triples ∧ AnswersAlike g h := by
  have hvalid : ∀ t ∈ clashingSongs, t.Valid := by decide +kernel
  have hsame : ∀ t, t ∈ clashingSongs ↔ t ∈ clashingSongs.reverse ++ clashingSongs := by
    intro t
    rw [List.mem_append, List.mem_reverse, or_self]
  obtain ⟨g, h, hg, hh, hperm, -, halike⟩ := answers_of_same_tracks hvalid hsame
  exact ⟨g, h, hg, hh, hperm, halike⟩

end Catalog

end Songbook
