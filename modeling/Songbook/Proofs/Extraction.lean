import Mathlib.Data.List.Forall2
import Songbook.Extraction
import Songbook.Proofs.Files.Replacement
import Songbook.Proofs.Records

/-!
# Extractions succeed unless fetching or saving fails

No item of a playlist can stop an extraction: the incomplete records are left out and counted, and
the tracks of the complete ones can all be inserted. What an extraction reports is what the saved
file holds.
-/

namespace Songbook

/-- What a report says about the playlist that was extracted. -/
structure Report.About (report : Report) (playlist : Playlist) (output : String) : Prop where
  playlistName : report.playlistName = playlist.name
  output : report.output = output
  /-- The tracks are those of the complete records, in the order of the playlist. -/
  tracks : List.Forall₂ Record.Describes (playlist.records.filter (·.Complete)) report.tracks
  items : report.items = playlist.records.length
  balance : report.items = report.written + report.skipped
  written : report.written = report.tracks.length

/-- The file at the path of a report holds the graph of the tracks in the report. -/
def Report.HeldBy (report : Report) (t : FileTree) : Prop :=
  ∃ g h, Graph.ofTracks report.tracks = .ok g ∧ Graph.load t report.output = .ok h ∧
    h.triples.Perm g.triples ∧ report.triples = h.size

namespace Extraction

variable {records : List Record}

/-- The tracks of records are those of the complete ones, in their order. -/
theorem forall₂_tracksOf :
    List.Forall₂ Record.Describes (records.filter (·.Complete)) (tracksOf records) := by
  induction records with
  | nil => exact .nil
  | cons r records ih =>
    have hiff := Record.isSome_toTrack_iff (r := r)
    unfold tracksOf at ih ⊢
    cases hr : r.toTrack with
    | error e =>
      have hincomplete : ¬ r.Complete := by
        rw [← hiff, hr]
        exact Bool.false_ne_true
      rw [List.filter_cons_of_neg (by simpa using hincomplete),
        List.filterMap_cons_none (by rw [hr]; rfl)]
      exact ih
    | ok t =>
      have hcomplete : r.Complete := by
        rw [← hiff, hr]
        rfl
      rw [List.filter_cons_of_pos (by simpa using hcomplete),
        List.filterMap_cons_some (by rw [hr]; rfl)]
      exact .cons (Record.toTrack_eq_ok_iff.mp hr).1 ih

/-- Every record is a track or skipped. -/
theorem length_tracksOf_add_skippedIn :
    (tracksOf records).length + skippedIn records = records.length := by
  rw [tracksOf, List.length_filterMap_eq_countP, skippedIn,
    records.length_eq_countP_add_countP fun r => r.toTrack.toOption.isSome]
  congr 2
  funext r
  cases r.toTrack with
  | error e => rfl
  | ok t => rfl

theorem valid_of_mem_tracksOf {t : Track} (ht : t ∈ tracksOf records) : t.Valid := by
  obtain ⟨r, -, hr⟩ := List.mem_filterMap.mp ht
  cases htrack : r.toTrack with
  | error e => simp [htrack, Except.toOption] at hr
  | ok u =>
    obtain rfl : u = t := by simpa [htrack, Except.toOption] using hr
    exact (Record.toTrack_eq_ok_iff.mp htrack).2

/-- The report about a playlist whose graph was saved. -/
def reportOn (playlist : Playlist) (output : String) (g : Graph) : Report where
  playlistName := playlist.name
  items := playlist.records.length
  written := (tracksOf playlist.records).length
  skipped := skippedIn playlist.records
  triples := g.size
  output
  tracks := tracksOf playlist.records

theorem reportOn_about (playlist : Playlist) (output : String) (g : Graph) :
    (reportOn playlist output g).About playlist output where
  playlistName := rfl
  output := rfl
  tracks := forall₂_tracksOf
  items := rfl
  balance := length_tracksOf_add_skippedIn.symm
  written := rfl

/-- What an extraction does once the graph of the playlist is there. -/
theorem extract_ok {playlist : Playlist} {g : Graph}
    (hg : Graph.ofTracks (tracksOf playlist.records) = .ok g) (output : String) :
    extract (.ok playlist) output = (do g.save output; return reportOn playlist output g) := by
  have hextract : extract (.ok playlist) output = (do
      let graph ← liftM (Graph.ofTracks (tracksOf playlist.records))
      graph.save output
      return reportOn playlist output graph) := rfl
  rw [hextract, hg]
  rfl

/-- A saved graph of tracks is in the file at the path of its report. -/
theorem reportOn_heldBy {playlist : Playlist} {output : String} {g : Graph} {d d' : Disk}
    (hg : Graph.ofTracks (tracksOf playlist.records) = .ok g)
    (hsave : (g.save output).run.run d = (.ok (), d')) :
    (reportOn playlist output g).HeldBy d'.tree :=
  ⟨g, g.reversed, hg, Graph.load_of_ofTracks hg hsave, g.reversed_perm,
    g.reversed_perm.length_eq.symm⟩

/-- The track of a record can always be inserted, so that an extraction fails only with a failed
fetch, and then does nothing at all, or with a failed save. If it succeeds then its report tells
which tracks the playlist has, and the file holds them. -/
theorem extract_run (source : Except Error Playlist) (output : String) (d : Disk) :
    (∀ (r : Record) (t : Track), r.toTrack = .ok t → ∀ g, ∃ g', Graph.insertTrack g t = .ok g') ∧
    match source with
    | .error e => (extract source output).run.run d = (.error e, d)
    | .ok playlist =>
      ∃ g, Graph.ofTracks (tracksOf playlist.records) = .ok g ∧
        match (g.save output).run.run d with
        | (.error e, d') => (extract source output).run.run d = (.error e, d')
        | (.ok (), d') =>
          ∃ report, (extract source output).run.run d = (.ok report, d') ∧
            report.About playlist output ∧ report.HeldBy d'.tree := by
  refine ⟨fun r t ht g => ⟨_, Record.insertTrack_of_toTrack ht g⟩, ?_⟩
  cases source with
  | error e => rfl
  | ok playlist =>
    -- every track of a record is valid, so that only saving can fail
    obtain ⟨g, hg⟩ : ∃ g, Graph.ofTracks (tracksOf playlist.records) = .ok g :=
      ⟨_, Graph.ofTracks_eq_ok_iff.mpr ⟨fun t ht => valid_of_mem_tracksOf ht, rfl⟩⟩
    refine ⟨g, hg, ?_⟩
    rw [extract_ok hg]
    split
    · rename_i e d' hsave
      exact Disk.run_bind_error hsave
    · rename_i d' hsave
      exact ⟨_, Disk.run_bind_ok hsave, reportOn_about playlist output g,
        reportOn_heldBy hg hsave⟩

/-- A playlist whose second item has a name only. -/
def mixedPlaylist : Playlist :=
  let artist : EntityRecord := ⟨some "spotify:artist:x", "X"⟩
  let album : EntityRecord := ⟨some "spotify:album:a", "A"⟩
  ⟨"Mix",
    [⟨some "spotify:track:1", "Song", some 61000, [artist, {}], some album⟩, { name := "Gap" }]⟩

/-- The item that is no track is left out, and the other one is saved. -/
theorem extract_run_mixedPlaylist :
    ∃ report d', (extract (.ok mixedPlaylist) "mix.ttl").run.run ⟨{}, []⟩ = (.ok report, d') ∧
      report.About mixedPlaylist "mix.ttl" ∧ report.HeldBy d'.tree := by
  obtain ⟨-, g, -, h⟩ := extract_run (.ok mixedPlaylist) "mix.ttl" ⟨{}, []⟩
  split at h
  · rename_i e d' hsave
    cases hsave
  · rename_i d' hsave
    obtain ⟨report, hreport⟩ := h
    exact ⟨report, d', hreport⟩

end Extraction

end Songbook
