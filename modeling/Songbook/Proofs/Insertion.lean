import Mathlib.Data.Finset.Dedup
import Mathlib.Data.Finset.Card
import Songbook.Proofs.Tracks

/-!
# Inserting tracks in place

A track is inserted as a whole or not at all, because all of its addresses are looked at before
its first triple is inserted. So whatever tracks are inserted one after the other, with failures
among them, the graph holds every triple once, behind what it held before, and no triple of a
track that was refused: `Graph.insertions_are_atomic`.
-/

namespace Songbook

open Rdf

namespace Track

variable {t : Track} {a : String}

/-- The first address of a track that is no absolute identifier. -/
def fault? (t : Track) : Option String :=
  [t.address, t.artist.address, t.album.address].find? fun a => !Iri.isAbsolute a.toList

/-- What is told about inserting a track. -/
def outcome (t : Track) : Except Error Unit :=
  match t.fault? with
  | some a => .error (.iri a)
  | none => .ok ()

theorem fault?_eq_none_iff : t.fault? = none ↔ t.Valid := by
  have hiff : t.fault? = none ↔ Iri.isAbsolute t.address.toList = true ∧
      Iri.isAbsolute t.artist.address.toList = true ∧
      Iri.isAbsolute t.album.address.toList = true := by
    simp [fault?]
  rw [hiff]
  constructor
  · rintro ⟨h, h', h''⟩
    exact ⟨h, h', h''⟩
  · rintro ⟨h, h', h''⟩
    exact ⟨h, h', h''⟩

theorem identifier_eq_ok (h : Iri.isAbsolute a.toList = true) : identifier a = .ok ⟨a⟩ :=
  identifier_eq_ok_iff.mpr ⟨rfl, h⟩

theorem identifier_eq_error (h : Iri.isAbsolute a.toList = false) :
    identifier a = .error (.iri a) := by
  have hnone : Iri.ofString? a = none := by
    unfold Iri.ofString?
    rw [h]
    rfl
  unfold identifier
  rw [hnone]

/-- The triples of a track, or its first faulty address. -/
theorem triples_eq (t : Track) :
    t.triples =
      match t.fault? with
      | some a => .error (.iri a)
      | none => .ok t.described := by
  cases h : t.fault? with
  | none => exact triples_eq_ok_iff.mpr ⟨fault?_eq_none_iff.mp h, rfl⟩
  | some a =>
    unfold fault? at h
    unfold triples
    by_cases htrack : Iri.isAbsolute t.address.toList = true
    · rw [List.find?_cons_of_neg (by simpa using htrack)] at h
      rw [identifier_eq_ok htrack]
      by_cases hartist : Iri.isAbsolute t.artist.address.toList = true
      · rw [List.find?_cons_of_neg (by simpa using hartist)] at h
        rw [identifier_eq_ok hartist]
        -- the last address is faulty, for one of the three is
        obtain rfl : a = t.album.address := List.mem_singleton.mp (List.mem_of_find?_eq_some h)
        rw [identifier_eq_error (by simpa using List.find?_some h)]
        rfl
      · have hfaulty : Iri.isAbsolute t.artist.address.toList = false := by simpa using hartist
        rw [List.find?_cons_of_pos (by simpa using hfaulty)] at h
        cases h
        rw [identifier_eq_error hfaulty]
        rfl
    · have hfaulty : Iri.isAbsolute t.address.toList = false := by simpa using htrack
      rw [List.find?_cons_of_pos (by simpa using hfaulty)] at h
      cases h
      rw [identifier_eq_error hfaulty]
      rfl

/-- The length of a track is spelled in canonical digits, whatever it is. -/
theorem text_length (t : Track) :
    (Literal.integer (Int64.ofNat t.seconds)).text = toString (t.millis.toNat / 1000) := by
  have htoInt : (Int64.ofNat t.seconds).toInt = t.seconds :=
    Int64.toInt_ofNat_of_lt (Nat.lt_trans t.seconds_lt (by decide))
  rw [Literal.text, htoInt]
  rfl

end Track

namespace Graph

variable {g : Graph} {t : Track} {ts : List Track}

/-- Triples that are there already are not inserted again. -/
theorem insertAll_of_subset {triples : List Triple} (h : ∀ t ∈ triples, t ∈ g.triples) :
    g.insertAll triples = g := by
  apply Graph.ext
  have hnone : triples.filter (· ∉ g.triples) = [] := by
    apply List.filter_eq_nil_iff.mpr
    intro t ht
    simpa using h t ht
  rw [triples_insertAll, hnone]
  exact List.append_nil _

theorem run_forM_insert (g : Graph) (triples : List Triple) :
    (triples.forM fun t => modify (·.insert t) : Change Unit).run.run g =
      (.ok (), g.insertAll triples) := by
  induction triples generalizing g with
  | nil => rfl
  | cons t triples ih => exact ih (g.insert t)

/-- Inserting a track in place fails with its first faulty address and leaves the graph as it is,
or inserts all its triples. -/
theorem run_insertion (t : Track) (g : Graph) :
    t.insertion.run.run g =
      match t.fault? with
      | some a => (.error (.iri a), g)
      | none => (.ok (), g.insertAll t.described) := by
  have hrun : t.insertion.run.run g =
      match t.triples with
      | .ok triples => (.ok (), g.insertAll triples)
      | .error e => (.error e, g) := by
    unfold Track.insertion Track.triples
    -- an address that is refused ends the run before anything is inserted
    cases Track.identifier t.address with
    | error e => rfl
    | ok track =>
      cases Track.identifier t.artist.address with
      | error e => rfl
      | ok artist =>
        cases Track.identifier t.album.address with
        | error e => rfl
        | ok album => exact run_forM_insert g _
  rw [hrun, Track.triples_eq]
  cases t.fault? <;> rfl

theorem run_insertion_of_valid (h : t.Valid) (g : Graph) :
    t.insertion.run.run g = (.ok (), g.insertAll t.described) := by
  rw [run_insertion, Track.fault?_eq_none_iff.mpr h]

theorem run_insertion_of_not_valid (h : ¬ t.Valid) (g : Graph) :
    ∃ a, t.fault? = some a ∧ t.insertion.run.run g = (.error (.iri a), g) := by
  cases hfault : t.fault? with
  | none => exact absurd (Track.fault?_eq_none_iff.mp hfault) h
  | some a => exact ⟨a, rfl, by rw [run_insertion, hfault]⟩

/-- A run inserts the triples of the valid tracks, and nothing of the others. -/
theorem run_insertEach (ts : List Track) (g : Graph) :
    (insertEach ts).run g =
      (ts.map Track.outcome, g.insertAll ((ts.filter (·.Valid)).flatMap Track.described)) := by
  induction ts generalizing g with
  | nil => rfl
  | cons t ts ih =>
    have hcons : (insertEach (t :: ts)).run g =
        ((t.insertion.run.run g).1 :: ((insertEach ts).run (t.insertion.run.run g).2).1,
          ((insertEach ts).run (t.insertion.run.run g).2).2) := by
      simp only [insertEach, List.mapM_cons]
      rfl
    rw [hcons, ih, run_insertion, List.map_cons, Track.outcome]
    by_cases ht : t.Valid
    · rw [List.filter_cons_of_pos (by simpa using ht), List.flatMap_cons, insertAll_append,
        Track.fault?_eq_none_iff.mpr ht]
    · obtain ⟨a, ha, -⟩ := run_insertion_of_not_valid ht g
      rw [List.filter_cons_of_neg (by simpa using ht), ha]

theorem size_eq_card {triples : List Triple} (h : g.triples = triples.eraseDups) :
    g.size = triples.toFinset.card := by
  have hset : g.triples.toFinset = triples.toFinset := by
    ext t
    simp [h, List.mem_eraseDups]
  rw [← hset, List.toFinset_card_of_nodup g.nodup]
  rfl

theorem ofTracks_eq_error_iff : (∃ e, ofTracks ts = .error e) ↔ ∃ t ∈ ts, ¬ t.Valid := by
  constructor
  · rintro ⟨e, he⟩
    by_contra hnone
    have hall : ∀ t ∈ ts, t.Valid := fun t ht => by_contra fun hnot => hnone ⟨t, ht, hnot⟩
    rw [ofTracks_eq_ok_iff.mpr ⟨hall, rfl⟩] at he
    cases he
  · rintro ⟨t, ht, hnot⟩
    cases hts : ofTracks ts with
    | error e => exact ⟨e, rfl⟩
    | ok h => exact absurd ((ofTracks_eq_ok_iff.mp hts).1 t ht) hnot

/-- Inserting a track in place fails exactly if one of its addresses is faulty, and then changes
nothing. Otherwise those of its seven triples that are new come behind all others. So after any
run of insertions the graph holds every triple once, namely those from before and those of the
valid tracks, and no track of the run changes it again. The graph of a list of tracks is there
unless one of them is faulty. -/
theorem insertions_are_atomic (g : Graph) (ts : List Track) :
    (∀ t : Track,
      (¬ t.Valid → ∃ a, t.fault? = some a ∧ t.insertion.run.run g = (.error (.iri a), g)) ∧
      (t.Valid → ∃ h, t.insertion.run.run g = (.ok (), h) ∧
        h.triples = g.triples ++ (t.described.filter (· ∉ g.triples)).eraseDups) ∧
      t.described.length = 7 ∧
      ∃ l : Literal, l.text = toString (t.millis.toNat / 1000) ∧
        l.datatype = Vocabulary.xsdInteger ∧
        ∀ n o, ⟨n, Vocabulary.duration, o⟩ ∈ t.described ↔
          n = .iri ⟨t.address⟩ ∧ o = .literal l) ∧
    (∃ h, (insertEach ts).run g = (ts.map Track.outcome, h) ∧
      h.triples = (g.triples ++ (ts.filter (·.Valid)).flatMap Track.described).eraseDups ∧
      h.triples.Nodup ∧
      h.size = (g.triples ++ (ts.filter (·.Valid)).flatMap Track.described).toFinset.card ∧
      ∀ t ∈ ts, (t.insertion.run.run h).2 = h) ∧
    ((∃ e, ofTracks ts = .error e) ↔ ∃ t ∈ ts, ¬ t.Valid) := by
  refine ⟨fun t => ⟨fun ht => run_insertion_of_not_valid ht g, fun ht => ?_, rfl, ?_⟩, ?_,
    ofTracks_eq_error_iff⟩
  · exact ⟨_, run_insertion_of_valid ht g, triples_insertAll⟩
  · exact ⟨.integer (Int64.ofNat t.seconds), t.text_length, rfl,
      fun n o => Track.mem_described_duration⟩
  · refine ⟨_, run_insertEach ts g, triples_insertAll_eq_eraseDups, Graph.nodup _,
      size_eq_card triples_insertAll_eq_eraseDups, fun t ht => ?_⟩
    by_cases hvalid : t.Valid
    · rw [run_insertion_of_valid hvalid]
      apply insertAll_of_subset
      intro x hx
      exact mem_insertAll.mpr (Or.inr (List.mem_flatMap.mpr
        ⟨t, List.mem_filter.mpr ⟨ht, by simpa using hvalid⟩, hx⟩))
    · obtain ⟨a, -, hrun⟩ := run_insertion_of_not_valid hvalid _
      rw [hrun]

/-- A track, and one by the same artist whose album has a faulty address. -/
def faultyAlbum : List Track :=
  let artist : Entity := ⟨"spotify:artist:x", "X"⟩
  [⟨"spotify:track:1", "One", 18446744073709551615, artist, ⟨"spotify:album:a", "A"⟩⟩,
    ⟨"spotify:track:2", "Two", 1000, artist, ⟨"no address", "B"⟩⟩]

/-- Nothing of the second track is inserted, however often both are tried. -/
theorem insertions_are_atomic_faultyAlbum :
    ∃ h, (insertEach (faultyAlbum ++ faultyAlbum)).run empty =
        ([.ok (), .error (.iri "no address"), .ok (), .error (.iri "no address")], h) ∧
      h.size = 7 := by
  obtain ⟨-, ⟨h, hrun, -, -, hsize, -⟩, -⟩ :=
    insertions_are_atomic empty (faultyAlbum ++ faultyAlbum)
  have houtcomes : (faultyAlbum ++ faultyAlbum).map Track.outcome =
      [.ok (), .error (.iri "no address"), .ok (), .error (.iri "no address")] := by
    decide +kernel
  refine ⟨h, ?_, ?_⟩
  · rw [hrun, houtcomes]
  · rw [hsize]
    decide +kernel

end Graph

end Songbook
