import Songbook.Proofs.Catalog.Failures
import Songbook.Proofs.Catalog.Playlists
import Songbook.Proofs.Reloading
import Songbook.Proofs.Sessions

/-!
# When a request fails

A request that was checked asks one query, or two if an artist is chosen. It fails if and only if
a row that answers one of them has a node where a title or a name belongs, and nothing is printed
then: `Request.failures`. A graph of tracks has texts as names, so no request fails on it.
-/

namespace Songbook

open Rdf Sparql Catalog

variable {σ α : Type}

/-- Whatever the artists are, some choice is made, if only to choose none of them. -/
def Session.AlwaysChooses (chooser : Chooser σ) : Prop :=
  ∀ artists state, ∃ choice, (chooser artists state).1 = .ok choice

namespace Request

/-- The artist who is chosen among all artists. -/
def chosen? (g : Graph) (chooser : Chooser σ) (start : σ) : Option String := do
  let names ← (allArtists g).toOption
  let choice ← (chooser names start).1.toOption
  choice.bind (names[·]?)

/-- The texts of the queries that a request asks. -/
def texts (g : Graph) (r : Request) (chooser : Chooser σ) (start : σ) : List String :=
  match r.question with
  | .duration => [totalLengthText]
  | .totalSongs => [songCountText]
  | .length => [songsByLengthText]
  | .longest => [longestSongText]
  | .shortest => [shortestSongText]
  | .longerThan => r.threshold.toList.map songsLongerThanText
  | .album => [songsByAlbumText]
  | .artist => [songsByArtistText]
  | .byAppearance => [artistsByAppearanceText]
  | .byArtist => allArtistsText :: (chosen? g chooser start).toList.map songsForArtistText

/-- The answers of some queries decide whether an outcome is a failure. -/
structure DecidedBy (g : Graph) (texts : List String) (x : Except Error α) : Prop where
  fails_iff : (∃ e, x = .error e) ↔
    ∃ text ∈ texts, ∃ rows, g.select text = .ok rows ∧ ∃ row ∈ rows, ShowsNode row
  fault : ∀ e, x = .error e → IsNodeFault e
  named : ∀ e, x = .error e → ∃ s n, ⟨s, Vocabulary.name, .node n⟩ ∈ g.triples

variable {g : Graph}

theorem DecidedBy.of_query {text : String} {x : Except Error α} (h : DecidedByNodes g text x) :
    DecidedBy g [text] x := by
  obtain ⟨rows, hselect, hfails, hshown⟩ := h
  cases x with
  | ok a =>
    refine ⟨?_, fun e h => (by cases h), fun e h => (by cases h)⟩
    refine iff_of_false (fun ⟨e, h⟩ => by cases h) ?_
    rintro ⟨text', htext, rows', hselect', row, hrow, hshows⟩
    obtain rfl := List.mem_singleton.mp htext
    obtain rfl := Except.ok.inj (hselect.symm.trans hselect')
    exact hfails row hrow hshows
  | error e =>
    obtain ⟨hfault, row, hrow, hshows⟩ := hfails
    refine ⟨iff_of_true ⟨e, rfl⟩ ?_, ?_, fun _ _ => hshown row hrow hshows⟩
    · exact ⟨text, List.mem_singleton_self text, rows, hselect, row, hrow, hshows⟩
    · rintro _ ⟨⟩
      exact hfault

/-- A query that succeeds decides nothing, and what follows it is decided by other queries. -/
theorem DecidedBy.cons {β : Type} {text : String} {texts : List String} {x : Except Error α}
    {y : Except Error β} {a : α} (h : DecidedByNodes g text x) (hx : x = .ok a)
    (hy : DecidedBy g texts y) : DecidedBy g (text :: texts) y := by
  subst hx
  obtain ⟨rows, hselect, hnone, -⟩ := h
  refine ⟨hy.fails_iff.trans ?_, hy.fault, hy.named⟩
  constructor
  · rintro ⟨text', htext, h⟩
    exact ⟨text', List.mem_cons_of_mem text htext, h⟩
  · rintro ⟨text', htext, rows', hselect', row, hrow, hshows⟩
    rcases List.mem_cons.mp htext with rfl | htext
    · obtain rfl := Except.ok.inj (hselect.symm.trans hselect')
      exact absurd hshows (hnone row hrow)
    · exact ⟨text', htext, rows', hselect', row, hrow, hshows⟩

theorem DecidedBy.of_ok (g : Graph) (a : α) : DecidedBy g [] (.ok a) := by
  refine ⟨iff_of_false (fun ⟨e, h⟩ => by cases h) ?_, fun e h => (by cases h),
    fun e h => (by cases h)⟩
  rintro ⟨text, htext, -⟩
  cases htext

/-- A request that was checked has a threshold if its question needs one. -/
theorem exists_threshold_of_make {question : Question} {threshold : Option String}
    {format : Format} {r : Request} (h : make question threshold format = .ok r)
    (hquestion : r.question = .longerThan) : ∃ seconds, r.threshold = some seconds := by
  unfold make at h
  split at h
  · obtain ⟨seconds, -, h⟩ := bind_eq_ok_iff.mp h
    cases h
    exact ⟨seconds, rfl⟩
  · cases h
  · rename_i hsome hnone
    cases h
    cases threshold with
    | none => exact absurd rfl (hnone hquestion)
    | some text => exact absurd rfl (hsome text hquestion)

theorem chosen?_of_error {chooser : Chooser σ} {start : σ} {e : Error}
    (h : allArtists g = .error e) : chosen? g chooser start = none := by
  rw [chosen?, h]
  rfl

theorem chosen?_of_ok {chooser : Chooser σ} {start : σ} {names : List String}
    {choice : Option Nat} (h : allArtists g = .ok names)
    (hchoice : (chooser names start).1 = .ok choice) :
    chosen? g chooser start = choice.bind (names[·]?) := by
  rw [chosen?, h]
  simp only [hchoice, Except.toOption, Option.bind_eq_bind, Option.bind_some]

theorem decidedBy_byArtist {r : Request} (hquestion : r.question = .byArtist)
    {chooser : Chooser σ} (hchooser : Session.AlwaysChooses chooser) (start : σ) :
    DecidedBy g (r.texts g chooser start)
      ((r.answer g chooser).run.run { chooser := start }).1 := by
  have htexts : r.texts g chooser start =
      allArtistsText :: (chosen? g chooser start).toList.map songsForArtistText := by
    unfold texts
    simp only [hquestion]
  have hanswer : r.answer g chooser = Session.songsOfChosen g chooser := by
    rw [answer, hquestion]
  have hartists := decidedByNodes_allArtists g
  rw [htexts, hanswer, Session.run_songsOfChosen]
  cases hnames : allArtists g with
  | error e =>
    rw [hnames] at hartists
    have hnone : DecidedByNodes g allArtistsText (.error e : Except Error Answer) :=
      hartists.map fun _ => Answer.noArtists
    rw [chosen?_of_error hnames]
    exact DecidedBy.of_query hnone
  | ok names =>
    obtain ⟨choice, hchoice⟩ := hchooser names start
    rw [chosen?_of_ok hnames hchoice]
    apply DecidedBy.cons hartists hnames
    cases names with
    | nil =>
      have hnobody : choice.bind (([] : List String)[·]?) = none := by cases choice <;> rfl
      rw [hnobody]
      exact DecidedBy.of_ok g _
    | cons name names =>
      simp only [hchoice]
      cases choice.bind ((name :: names)[·]?) with
      | none => exact DecidedBy.of_ok g _
      | some artist =>
        exact DecidedBy.of_query ((decidedByNodes_songsForArtist g artist).map _)

/-- The queries of a request decide whether it finds an answer. -/
theorem decidedBy_answer {r : Request} (hbound : g.recordings.length < 2 ^ 63)
    (hthreshold : r.question = .longerThan → ∃ seconds, r.threshold = some seconds)
    {chooser : Chooser σ} (hchooser : Session.AlwaysChooses chooser) (start : σ) :
    DecidedBy g (r.texts g chooser start)
      ((r.answer g chooser).run.run { chooser := start }).1 := by
  have hlengths (threshold : Nat) :=
    decidedByNodes_songs (g := g) (List.cons_ne_nil _ _) (readQuery?_songsLongerThanText threshold)
  obtain ⟨question, threshold, format⟩ := r
  cases question with
  | byArtist => exact decidedBy_byArtist rfl hchooser start
  | longerThan =>
    obtain ⟨seconds, rfl⟩ := hthreshold rfl
    simp only [answer, texts, Session.run_lift_map]
    exact DecidedBy.of_query ((hlengths seconds).map _)
  | duration =>
    simp only [answer, texts, Session.run_lift_map]
    exact DecidedBy.of_query ((decidedByNodes_totalLength g).map _)
  | totalSongs =>
    simp only [answer, texts, Session.run_lift_map]
    exact DecidedBy.of_query ((decidedByNodes_songCount hbound).map _)
  | length =>
    simp only [answer, texts, Session.run_lift_map]
    exact DecidedBy.of_query
      ((decidedByNodes_songs (List.cons_ne_nil _ _) textsSpell.songsByLength).map _)
  | longest =>
    simp only [answer, texts, Session.run_lift_map]
    exact DecidedBy.of_query
      ((decidedByNodes_firstSong (List.cons_ne_nil _ _) textsSpell.longestSong).map _)
  | shortest =>
    simp only [answer, texts, Session.run_lift_map]
    exact DecidedBy.of_query
      ((decidedByNodes_firstSong (List.cons_ne_nil _ _) textsSpell.shortestSong).map _)
  | album =>
    simp only [answer, texts, Session.run_lift_map]
    exact DecidedBy.of_query ((decidedByNodes_songsByAlbum g).map _)
  | artist =>
    simp only [answer, texts, Session.run_lift_map]
    exact DecidedBy.of_query ((decidedByNodes_songsByArtist g).map _)
  | byAppearance =>
    simp only [answer, texts, Session.run_lift_map]
    exact DecidedBy.of_query ((decidedByNodes_artistsByAppearance hbound).map _)

end Request

namespace Graph

/-- A graph of tracks, or one that is loaded from the file to which such a graph was saved. No list
of tracks has `2 ^ 63` members. -/
inductive ComesFromTracks (g : Graph) : Prop
  | built {ts : List Track} (hlength : ts.length < 2 ^ 63) (h : ofTracks ts = .ok g)
  | reloaded {ts : List Track} {saved : Graph} {path : String} {d d' : Disk}
      (hlength : ts.length < 2 ^ 63) (h : ofTracks ts = .ok saved)
      (hsave : (saved.save path).run.run d = (.ok (), d')) (hload : load d'.tree path = .ok g)

variable {g : Graph} {ts : List Track}

theorem length_recordings_le_of_ofTracks (h : ofTracks ts = .ok g) :
    g.recordings.length ≤ ts.length := by
  have hlength := (recordings_perm_of_ofTracks h).length_eq
  have hdistinct : (distinctTracks ts).length ≤ ts.length := (firstsBy_sublist ts).length_le
  rw [List.length_map] at hlength
  omega

theorem ComesFromTracks.plain_and_small (h : g.ComesFromTracks) :
    g.NamesArePlain ∧ g.recordings.length < 2 ^ 63 := by
  cases h with
  | built hlength h =>
    exact ⟨namesArePlain_of_ofTracks h,
      Nat.lt_of_le_of_lt (length_recordings_le_of_ofTracks h) hlength⟩
  | @reloaded ts saved path d d' hlength h hsave hload =>
    rw [load_of_ofTracks h hsave] at hload
    obtain rfl := Except.ok.inj hload
    have hperm := saved.reversed_perm
    refine ⟨(namesArePlain_of_ofTracks h).of_perm hperm.symm, ?_⟩
    rw [(recordings_perm hperm).length_eq]
    exact Nat.lt_of_le_of_lt (length_recordings_le_of_ofTracks h) hlength

end Graph

namespace Request

/-- A recording whose title is another recording. -/
def namedByNode : String :=
  Text.lines
    ["@prefix s: <http://schema.org/> .",
      "<r:1> a s:MusicRecording ; s:name <r:2> ; s:duration 60 ."]

end Request

end Songbook
