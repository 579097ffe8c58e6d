import Songbook.CommandLine.Run
import Songbook.Proofs.Extraction
import Songbook.Proofs.Files.Saving
import Songbook.Proofs.Settings

/-!
# Extractions on the command line

An extraction ends in one of five ways: the settings are refused, the user is unknown, the playlist
cannot be fetched, its graph cannot be saved, or it is saved. Only in the last one is anything
printed, and what is printed then is about the tracks whose triples are loaded from the file:
`extract_in_order`.
-/

namespace Songbook

theorem Graph.changes_of_save_error {g : Graph} {path : String} {d d' : Disk} {e : Error}
    (h : (g.save path).run.run d = (.error e, d')) :
    FileTree.Changes (fun l => d.tree.locate (Path.ofText path).temporary = .ok l)
      d.tree d'.tree := by
  obtain ⟨outcome, tree, steps, hrun, hsaved⟩ := g.exists_saved path d
  obtain ⟨rfl, rfl⟩ := Prod.mk.inj (h.symm.trans hrun)
  exact hsaved.changes_of_error

namespace Extraction

/-- The lines that are printed about an extraction. -/
def reportLines (r : Report) : List String :=
  ["Playlist Name: " ++ r.playlistName, "Total Tracks: " ++ toString r.items] ++
    (r.tracks.flatMap trackLines ++
      (skippedLines r.skipped ++ ["RDF data generated and saved to " ++ r.output]))

theorem summary_eq (r : Report) : summary r = Text.lines (reportLines r) := by
  simp only [summary, listing, reportLines, Text.lines_append, String.append_assoc]

/-- No line but the one about skipped items begins like it. -/
theorem head?_of_mem_reportLines {r : Report} {line : String}
    (h : line ∈ reportLines r) : line.toList.head? ≠ some 'S' ∨ line ∈ skippedLines r.skipped := by
  simp only [reportLines, List.mem_append, List.mem_cons, List.not_mem_nil, or_false,
    List.mem_flatMap] at h
  rcases h with (rfl | rfl) | ⟨t, -, ht⟩ | hskipped | rfl
  · exact .inl (by simp)
  · exact .inl (by simp)
  · simp only [trackLines, List.mem_cons, List.not_mem_nil, or_false] at ht
    rcases ht with rfl | rfl | rfl | rfl | rfl <;> exact .inl (by simp)
  · exact .inr hskipped
  · exact .inl (by simp)

theorem skipped_mem_reportLines_iff {r : Report} :
    (∃ rest, "Skipped " ++ rest ∈ reportLines r) ↔ 0 < r.skipped := by
  constructor
  · rintro ⟨rest, hrest⟩
    rcases head?_of_mem_reportLines hrest with hhead | hline
    · exact absurd (by simp) hhead
    · by_contra hnone
      rw [skippedLines, if_pos (Nat.eq_zero_of_not_pos hnone)] at hline
      cases hline
  · intro hpos
    refine ⟨toString r.skipped ++ " items without complete track data", ?_⟩
    simp [reportLines, skippedLines, Nat.ne_of_gt hpos, String.append_assoc]

/-- The rules between the blocks are as many as the tracks. -/
theorem count_reportLines (r : Report) : (reportLines r).count "---" = r.tracks.length := by
  have hother {line : String} (h : line.toList.head? ≠ some '-') : (line == "---") = false := by
    rw [beq_eq_false_iff_ne]
    rintro rfl
    exact h (by simp)
  have hblocks : (r.tracks.flatMap trackLines).count "---" = r.tracks.length := by
    induction r.tracks with
    | nil => rfl
    | cons t ts ih =>
      simp [trackLines, List.count_cons, ih, hother]
  have hskipped : (skippedLines r.skipped).count "---" = 0 := by
    unfold skippedLines
    split
    · rfl
    · simp [List.count_cons, hother]
  simp [reportLines, List.count_cons, hblocks, hskipped, hother]

end Extraction

namespace CommandLine

open Extraction

variable {s : Surroundings} {o : Overrides}

/-- The ways in which an extraction ends, with what it leaves. -/
inductive Ends (s : Surroundings) (o : Overrides) : Outcome → Prop
  | refused {e : Error} (hsettings : Settings.make o (fullEnvironment s).get? = .error e) :
      Ends s o { code := 1, err := failureText e, disk := s.disk }
  | unknown {settings : Settings} {e : Error}
      (hsettings : Settings.make o (fullEnvironment s).get? = .ok settings)
      (huser : Service.authorize s.service = .error e) :
      Ends s o { code := 1, err := failureText e, disk := s.disk }
  | unfetched {settings : Settings} {e : Error}
      (hsettings : Settings.make o (fullEnvironment s).get? = .ok settings)
      (hfetch : Service.fetch s.service settings.playlistId = .error e) :
      Ends s o { code := 1, err := failureText e, disk := s.disk }
  | unsaved {settings : Settings} {playlist : Playlist} {g : Graph} {e : Error} {d : Disk}
      (hsettings : Settings.make o (fullEnvironment s).get? = .ok settings)
      (hfetch : Service.fetch s.service settings.playlistId = .ok playlist)
      (hsave : (g.save settings.output).run.run s.disk = (.error e, d)) :
      Ends s o { code := 1, err := failureText e, disk := d }
  | saved {settings : Settings} {playlist : Playlist} {g : Graph} {d : Disk}
      (hsettings : Settings.make o (fullEnvironment s).get? = .ok settings)
      (hfetch : Service.fetch s.service settings.playlistId = .ok playlist)
      (hg : Graph.ofTracks (tracksOf playlist.records) = .ok g)
      (hsave : (g.save settings.output).run.run s.disk = (.ok (), d)) :
      Ends s o
        { code := 0, printed := summary (reportOn playlist settings.output g), disk := d }

theorem extract_of_refused {e : Error}
    (hsettings : Settings.make o (fullEnvironment s).get? = .error e) :
    extract s o = { code := 1, err := failureText e, disk := s.disk } := by
  rw [extract, extraction, hsettings]
  rfl

/-- Nothing is done on the disk before the playlist is fetched. -/
theorem run_extraction {settings : Settings}
    (hsettings : Settings.make o (fullEnvironment s).get? = .ok settings)
    (huser : Service.authorize s.service = .ok ()) :
    (extraction s o).run.run s.disk =
      (Extraction.extract (Service.fetch s.service settings.playlistId) settings.output).run.run
        s.disk := by
  rw [extraction, hsettings, huser]
  rfl

theorem ends_extract (s : Surroundings) (o : Overrides) : Ends s o (extract s o) := by
  cases hsettings : Settings.make o (fullEnvironment s).get? with
  | error e =>
    rw [extract_of_refused hsettings]
    exact .refused hsettings
  | ok settings =>
    rw [extract]
    cases huser : Service.authorize s.service with
    | error e =>
      rw [extraction, hsettings, huser]
      exact .unknown hsettings huser
    | ok u =>
      rw [run_extraction hsettings huser]
      cases hfetch : Service.fetch s.service settings.playlistId with
      | error e => exact .unfetched hsettings hfetch
      | ok playlist =>
        -- the tracks of records can all be inserted
        obtain ⟨g, hg⟩ : ∃ g, Graph.ofTracks (tracksOf playlist.records) = .ok g :=
          ⟨_, Graph.ofTracks_eq_ok_iff.mpr ⟨fun t ht => valid_of_mem_tracksOf ht, rfl⟩⟩
        rw [extract_ok hg]
        cases hsave : (g.save settings.output).run.run s.disk with
        | mk outcome d =>
          cases outcome with
          | error e =>
            rw [Disk.run_bind_error hsave]
            exact .unsaved hsettings hfetch hsave
          | ok u =>
            rw [Disk.run_bind_ok hsave]
            exact .saved hsettings hfetch hg hsave

/-- An extraction that fails prints nothing and changes at most the place next to its output. One
that succeeds leaves in its output the document of the graph of the tracks of the complete items,
from which exactly the triples of that graph are loaded, and prints those tracks in the same order,
one block each, and how many items it skipped, if any. Where the settings are refused, it does not
matter what the service would answer. -/
theorem extract_in_order {arguments : List String}
    (h : readArguments arguments = .command (.extract o)) (s : Surroundings) :
    let output := o.output.getD Settings.defaultOutput
    let target := Path.ofText output
    let after := run s arguments
    ¬ s.disk.tree.Meet target target.temporary ∧
    (after.code = 1 ∧ after.out = "" ∧
        (∀ l, s.disk.tree.locate target.temporary ≠ .ok l →
          after.disk.tree.lookup l = s.disk.tree.lookup l) ∨
      after.code = 0 ∧ ∃ settings playlist tracks skipped g loaded lines,
        Settings.make o (fullEnvironment s).get? = .ok settings ∧
        Service.fetch s.service settings.playlistId = .ok playlist ∧
        List.Forall₂ Record.Describes (playlist.records.filter (·.Complete)) tracks ∧
        playlist.records.length = tracks.length + skipped ∧
        Graph.ofTracks tracks = .ok g ∧ after.disk.tree.read target = .ok g.document.toUTF8 ∧
        Graph.load after.disk.tree output = .ok loaded ∧ loaded.triples.Perm g.triples ∧
        after.out = Text.lines lines ∧
        lines =
          ["Playlist Name: " ++ playlist.name,
            "Total Tracks: " ++ toString (tracks.length + skipped)] ++
          (tracks.flatMap (fun t =>
              ["Track Name: " ++ t.name, "Artist: " ++ t.artist.name, "Album: " ++ t.album.name,
                "Duration: " ++ Duration.clockOfMillis t.millis.toNat, "---"]) ++
            ((if skipped = 0 then []
                else ["Skipped " ++ toString skipped ++ " items without complete track data"]) ++
              ["RDF data generated and saved to " ++ output])) ∧
        lines.count "---" = tracks.length ∧
        ((∃ rest, "Skipped " ++ rest ∈ lines) ↔ 0 < skipped)) ∧
    ((∃ e, Settings.make o (fullEnvironment s).get? = .error e) →
      ∀ service, run { s with service } arguments = run s arguments) := by
  intro output target after
  have hrun : ∀ s, run s arguments = extract s o := by
    intro s
    rw [run, h]
  refine ⟨s.disk.tree.not_meet_temporary target, ?_, ?_⟩
  · have hends := ends_extract s o
    rw [← hrun] at hends
    change Ends s o after at hends
    generalize after = after at hends
    cases hends with
    | refused hsettings => exact .inl ⟨rfl, rfl, fun l _ => rfl⟩
    | unknown hsettings huser => exact .inl ⟨rfl, rfl, fun l _ => rfl⟩
    | unfetched hsettings hfetch => exact .inl ⟨rfl, rfl, fun l _ => rfl⟩
    | unsaved hsettings hfetch hsave =>
      have hchanges := Graph.changes_of_save_error hsave
      rw [Settings.output_of_make hsettings] at hchanges
      exact .inl ⟨rfl, rfl, hchanges.elsewhere⟩
    | @saved settings playlist g d hsettings hfetch hg hsave =>
      have houtput : settings.output = output := Settings.output_of_make hsettings
      let report := reportOn playlist settings.output g
      refine .inr ⟨rfl, settings, playlist, report.tracks, report.skipped, g, g.reversed,
        reportLines report, hsettings, hfetch, forall₂_tracksOf,
        length_tracksOf_add_skippedIn.symm, hg, ?_, ?_, g.reversed_perm, ?_, ?_,
        count_reportLines report, skipped_mem_reportLines_iff⟩
      · obtain ⟨written, hwrite, hrename⟩ := Graph.trees_of_save hsave
        rw [houtput] at hwrite hrename
        exact FileTree.read_of_rename_write hwrite hrename
      · rw [← houtput]
        exact Graph.load_of_ofTracks hg hsave
      · exact (String.empty_append).trans (summary_eq report)
      · have hitems : report.items = report.tracks.length + report.skipped :=
          length_tracksOf_add_skippedIn.symm
        have hplace : report.output = output := houtput
        rw [reportLines, hitems, hplace]
        rfl
  · rintro ⟨e, hsettings⟩ service
    rw [hrun, hrun, extract_of_refused hsettings]
    exact extract_of_refused (s := { s with service }) hsettings

/-- A service with a playlist of a song and an item that holds none, and an environment in which it
can be fetched. -/
def twoItems : Surroundings where
  environment :=
    [("SPOTIFY_CLIENT_ID", "i"), ("SPOTIFY_CLIENT_SECRET", "s"), ("SPOTIFY_REDIRECT_URI", "r")]
  service :=
    let album : Json := .object [("id", .text "a"), ("name", .text "A"), ("artists", .array []),
      ("external_urls", .object []), ("images", .array [])]
    let artist : Json := .object
      [("id", .text "x"), ("name", .text "X"), ("external_urls", .object [])]
    let song : Json := .object [("id", .text "t"), ("name", .text "Skipped"),
      ("duration_ms", .integer 61000), ("artists", .array [artist]), ("album", album),
      ("disc_number", .integer 1), ("explicit", .boolean false), ("is_local", .boolean false),
      ("external_ids", .object []), ("external_urls", .object []), ("popularity", .integer 0),
      ("track_number", .integer 1), ("type", .text "track")]
    let items := [song, .null].map fun track => .array [.null, .null, .boolean false, track]
    { playlistName := some "Mix", pages := [some { items, hasNext := false }] }
  disk := { tree := {} }

/-- The song of that playlist. -/
def onlySong : Track :=
  { address := "spotify:track:t"
    name := "Skipped"
    millis := 61000
    artist := ⟨"spotify:artist:x", "X"⟩
    album := ⟨"spotify:album:a", "A"⟩ }

/-- The seven triples of the song are loaded from the file; its block is printed, and that one item
was skipped. -/
theorem extract_in_order_twoItems :
    let arguments := ["extract", "--playlist-id", "mix", "-omix.ttl"]
    let after := run twoItems arguments
    readArguments arguments = .command (.extract ⟨some "mix", some "mix.ttl"⟩) ∧ after.code = 0 ∧
      ∃ g loaded : Graph, Graph.ofTracks [onlySong] = .ok g ∧
        after.disk.tree.read (Path.ofText "mix.ttl") = .ok g.document.toUTF8 ∧
        Graph.load after.disk.tree "mix.ttl" = .ok loaded ∧ loaded.triples.Perm g.triples ∧
        loaded.size = 7 ∧
        after.out = Text.lines
          ["Playlist Name: Mix", "Total Tracks: 2", "Track Name: Skipped", "Artist: X", "Album: A",
            "Duration: 1:01", "---", "Skipped 1 items without complete track data",
            "RDF data generated and saved to mix.ttl"] := by
  intro arguments
  have harguments : readArguments arguments = .command (.extract ⟨some "mix", some "mix.ttl"⟩) := by
    decide +kernel
  have hcode : (run twoItems arguments).code = 0 := by decide +kernel
  have hends := (extract_in_order harguments twoItems).2.1
  -- from here on it does not matter how the command is run
  generalize run twoItems arguments = after at hcode hends ⊢
  rcases hends with ⟨hfailed, -⟩ | ⟨-, settings, playlist, tracks, skipped, g, loaded, lines,
    hsettings, hfetch, hdescribes, hitems, hg, hread, hload, hperm, hout, hlines, -⟩
  · exact absurd (hcode.symm.trans hfailed) (Nat.zero_ne_one)
  · let onlyRecord : Record :=
      ⟨some "spotify:track:t", "Skipped", some 61000, [⟨some "spotify:artist:x", "X"⟩],
        some ⟨some "spotify:album:a", "A"⟩⟩
    have hfound : ((Settings.make ⟨some "mix", some "mix.ttl"⟩
        (fullEnvironment twoItems).get?).toOption.bind fun settings =>
          (Service.fetch twoItems.service settings.playlistId).toOption.map fun playlist =>
            (playlist.name, playlist.records.filter (·.Complete), playlist.records.length)) =
        some ("Mix", [onlyRecord], 2) := by decide +kernel
    simp only [hsettings, hfetch, Except.toOption, Option.bind_some, Option.map_some,
      Option.some.injEq, Prod.mk.injEq] at hfound
    obtain ⟨hname, hcomplete, hall⟩ := hfound
    -- a record describes no more than one track
    have htracks : tracks = [onlySong] := by
      have hsong : onlyRecord.Describes onlySong :=
        ⟨rfl, rfl, ⟨61000, rfl, by decide⟩, rfl, rfl⟩
      have hunique : Relator.RightUnique Record.Describes := fun _ _ _ => Record.Describes.unique
      rw [hcomplete] at hdescribes
      exact hunique.forall₂ hdescribes (.cons hsong .nil)
    subst htracks
    obtain rfl : skipped = 1 := by
      rw [hall, List.length_singleton] at hitems
      omega
    have hsize : g.size = 7 := by
      obtain ⟨-, rfl⟩ := Graph.ofTracks_eq_ok_iff.mp hg
      decide +kernel
    refine ⟨harguments, hcode, g, loaded, hg, hread, hload, hperm,
      hperm.length_eq.trans hsize, ?_⟩
    rw [hout, hlines, hname]
    decide +kernel

end CommandLine

end Songbook
