import Songbook.Proofs.Files.Replacement
import Songbook.Proofs.Turtle.RoundTrip
import Songbook.Track

/-!
# Graphs of tracks

A track can be inserted into a graph exactly when its three addresses are absolute identifiers,
and the graph of a list of tracks holds the triples of its tracks and no others. Documents can
keep all of them (`Graph.writable_of_ofTracks`), so that the graph is loaded from the file that it
was saved to: `Graph.load_of_ofTracks`.
-/

namespace Songbook

open Rdf

namespace Track

/-- A track whose three addresses are absolute identifiers. -/
structure Valid (t : Track) : Prop where
  address : Iri.isAbsolute t.address.toList = true
  artist : Iri.isAbsolute t.artist.address.toList = true
  album : Iri.isAbsolute t.album.address.toList = true

instance (t : Track) : Decidable t.Valid :=
  decidable_of_iff (Iri.isAbsolute t.address.toList = true ∧
    Iri.isAbsolute t.artist.address.toList = true ∧ Iri.isAbsolute t.album.address.toList = true)
    ⟨fun ⟨h, h', h''⟩ => ⟨h, h', h''⟩, fun ⟨h, h', h''⟩ => ⟨h, h', h''⟩⟩

/-- The triples of a track, with its addresses taken as identifiers. -/
def described (t : Track) : List Triple :=
  t.triplesWith ⟨t.address⟩ ⟨t.artist.address⟩ ⟨t.album.address⟩

theorem identifier_eq_ok_iff {address : String} {i : Iri} :
    identifier address = .ok i ↔ i = ⟨address⟩ ∧ Iri.isAbsolute address.toList = true := by
  unfold identifier
  split
  · rename_i j hj
    obtain ⟨htext, habsolute⟩ := Iri.ofString?_eq_some_iff.mp hj
    have hij : j = ⟨address⟩ := Iri.ext htext
    rw [Except.ok.injEq, hij]
    simp [habsolute, eq_comm]
  · rename_i hnone
    have hfalse : ¬ Iri.isAbsolute address.toList = true := by
      rw [← Iri.isSome_ofString?_iff, hnone]
      simp
    simp [hfalse]

/-- The triples of a track are there exactly if its addresses are identifiers. -/
theorem triples_eq_ok_iff {t : Track} {ts : List Triple} :
    t.triples = .ok ts ↔ t.Valid ∧ ts = t.described := by
  simp only [triples, bind_eq_ok_iff, identifier_eq_ok_iff]
  constructor
  · rintro ⟨track, ⟨rfl, htrack⟩, artist, ⟨rfl, hartist⟩, album, ⟨rfl, halbum⟩, h⟩
    exact ⟨⟨htrack, hartist, halbum⟩, (Except.ok.inj h).symm⟩
  · rintro ⟨h, rfl⟩
    exact ⟨_, ⟨rfl, h.address⟩, _, ⟨rfl, h.artist⟩, _, ⟨rfl, h.album⟩, rfl⟩

/-- The length of a track is far below what a word can hold. -/
theorem seconds_lt (t : Track) : t.seconds < 2 ^ 55 := by
  have hmillis : t.millis.toNat < 2 ^ 64 := t.millis.toNat_lt
  unfold seconds
  omega

/-! ### What the triples of a track say -/

/-- What has an address and a name in a track: the track itself, its artist and its album. -/
def entities (t : Track) : List Entity := [⟨t.address, t.name⟩, t.artist, t.album]

section Described

variable {t : Track} {n : Node} {o : Term}

theorem mem_described_rdfType :
    ⟨n, Vocabulary.rdfType, o⟩ ∈ t.described ↔
      n = .iri ⟨t.address⟩ ∧ o = .node (.iri Vocabulary.musicRecording) := by
  simp +decide only [described, triplesWith, List.mem_cons, Triple.mk.injEq, false_and, and_false,
    or_false, List.not_mem_nil, true_and]

theorem mem_described_name :
    ⟨n, Vocabulary.name, o⟩ ∈ t.described ↔
      ∃ e ∈ t.entities, n = .iri ⟨e.address⟩ ∧ o = .literal (.plain e.name) := by
  simp +decide only [described, triplesWith, entities, List.mem_cons, Triple.mk.injEq, false_and,
    and_false, false_or, or_false, List.not_mem_nil, true_and, exists_eq_or_imp, exists_eq_left]

theorem mem_described_duration :
    ⟨n, Vocabulary.duration, o⟩ ∈ t.described ↔
      n = .iri ⟨t.address⟩ ∧ o = .literal (.integer (Int64.ofNat t.seconds)) := by
  have hseconds : t.seconds < 2 ^ 63 := Nat.lt_trans t.seconds_lt (by decide)
  simp +decide only [described, triplesWith, List.mem_cons, Triple.mk.injEq, false_and, and_false,
    false_or, or_false, List.not_mem_nil, true_and, Literal.ofLexical_toString hseconds]

theorem mem_described_byArtist :
    ⟨n, Vocabulary.byArtist, o⟩ ∈ t.described ↔
      n = .iri ⟨t.address⟩ ∧ o = .node (.iri ⟨t.artist.address⟩) := by
  simp +decide only [described, triplesWith, List.mem_cons, Triple.mk.injEq, false_and, and_false,
    false_or, or_false, List.not_mem_nil, true_and]

theorem mem_described_inAlbum :
    ⟨n, Vocabulary.inAlbum, o⟩ ∈ t.described ↔
      n = .iri ⟨t.address⟩ ∧ o = .node (.iri ⟨t.album.address⟩) := by
  simp +decide only [described, triplesWith, List.mem_cons, Triple.mk.injEq, false_and, and_false,
    false_or, or_false, List.not_mem_nil, true_and]

end Described

end Track

namespace Graph

theorem insertAll_append (g : Graph) (ts us : List Triple) :
    g.insertAll (ts ++ us) = (g.insertAll ts).insertAll us := by
  simp [insertAll]

theorem insertTrack_eq_ok_iff {g h : Graph} {t : Track} :
    g.insertTrack t = .ok h ↔ t.Valid ∧ h = g.insertAll t.described := by
  simp only [insertTrack, bind_eq_ok_iff, Track.triples_eq_ok_iff]
  constructor
  · rintro ⟨_, ⟨hvalid, rfl⟩, h⟩
    exact ⟨hvalid, (Except.ok.inj h).symm⟩
  · rintro ⟨hvalid, rfl⟩
    exact ⟨_, ⟨hvalid, rfl⟩, rfl⟩

/-- Tracks can be inserted exactly if all of them are valid, and what is inserted are their
triples. -/
theorem foldlM_insertTrack_eq_ok_iff {g h : Graph} {ts : List Track} :
    ts.foldlM insertTrack g = .ok h ↔
      (∀ t ∈ ts, t.Valid) ∧ h = g.insertAll (ts.flatMap Track.described) := by
  induction ts generalizing g with
  | nil =>
    simp only [List.foldlM_nil, List.flatMap_nil, List.not_mem_nil, false_implies,
      implies_true, true_and]
    constructor
    · exact fun h => (Except.ok.inj h).symm
    · rintro rfl
      rfl
  | cons t ts ih =>
    simp only [List.foldlM_cons, bind_eq_ok_iff, insertTrack_eq_ok_iff, ih, List.flatMap_cons,
      insertAll_append, List.mem_cons, forall_eq_or_imp]
    constructor
    · rintro ⟨_, ⟨ht, rfl⟩, hts, rfl⟩
      exact ⟨⟨ht, hts⟩, rfl⟩
    · rintro ⟨⟨ht, hts⟩, rfl⟩
      exact ⟨_, ⟨ht, rfl⟩, hts, rfl⟩

theorem ofTracks_eq_ok_iff {g : Graph} {ts : List Track} :
    ofTracks ts = .ok g ↔
      (∀ t ∈ ts, t.Valid) ∧ g = ofTriples (ts.flatMap Track.described) :=
  foldlM_insertTrack_eq_ok_iff

theorem mem_ofTriples {ts : List Triple} {t : Triple} : t ∈ (ofTriples ts).triples ↔ t ∈ ts := by
  rw [ofTriples, mem_insertAll]
  simp [empty]

theorem writable_of_mem_described {t : Track} (ht : t.Valid) {x : Triple}
    (hx : x ∈ t.described) : x.Writable := by
  have hvocabulary : ∀ i ∈ [Vocabulary.rdfType, Vocabulary.musicRecording, Vocabulary.name,
      Vocabulary.duration, Vocabulary.byArtist, Vocabulary.inAlbum], i.Absolute := by
    decide +kernel
  simp only [List.mem_cons, List.not_mem_nil, or_false, forall_eq_or_imp, forall_eq]
    at hvocabulary
  obtain ⟨htype, hrecording, hname, hduration, hartist, halbum⟩ := hvocabulary
  have hseconds : t.seconds < 2 ^ 63 := Nat.lt_trans t.seconds_lt (by decide)
  simp only [Track.described, Track.triplesWith, Literal.ofLexical_toString hseconds,
    List.mem_cons, List.not_mem_nil, or_false] at hx
  rcases hx with rfl | rfl | rfl | rfl | rfl | rfl | rfl
  · exact ⟨ht.address, htype, hrecording⟩
  · exact ⟨ht.address, hname, trivial⟩
  · exact ⟨ht.address, hduration, trivial⟩
  · exact ⟨ht.address, hartist, ht.artist⟩
  · exact ⟨ht.artist, hname, trivial⟩
  · exact ⟨ht.address, halbum, ht.album⟩
  · exact ⟨ht.album, hname, trivial⟩

/-- A document can keep the graph of any tracks. -/
theorem writable_of_ofTracks {g : Graph} {ts : List Track} (h : ofTracks ts = .ok g) :
    g.Writable := by
  obtain ⟨hvalid, rfl⟩ := ofTracks_eq_ok_iff.mp h
  intro x hx
  obtain ⟨t, ht, hx⟩ := List.mem_flatMap.mp (mem_ofTriples.mp hx)
  exact writable_of_mem_described (hvalid t ht) hx

theorem ofDocument_of_ofTracks {g : Graph} {ts : List Track} (h : ofTracks ts = .ok g) :
    ofDocument g.document.toUTF8 = .ok g.reversed :=
  ofDocument_document (writable_of_ofTracks h)

/-- The file that a graph of tracks was saved to holds its triples, in the reverse order. -/
theorem load_of_ofTracks {g : Graph} {ts : List Track} (h : ofTracks ts = .ok g) {path : String}
    {d d' : Disk} (hsave : (g.save path).run.run d = (.ok (), d')) :
    load d'.tree path = .ok g.reversed := by
  rw [load_of_save hsave, ofDocument_of_ofTracks h]

end Graph

end Songbook
