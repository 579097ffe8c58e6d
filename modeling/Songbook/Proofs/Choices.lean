import Songbook.Proofs.Answers
import Songbook.Proofs.Catalog.Playlists

/-!
# Choosing an artist in a session

A session that lets an artist be chosen and does not fail ends in one of three ways. Only the songs
of the chosen artist have a document, `choice_in_json`: the two remarks are printed as text in
either form, `remarks_are_no_documents`.
-/

namespace Songbook

open Catalog

variable {σ : Type}

theorem bind_getElem?_eq_none_iff {α : Type} {as : List α} {choice : Option Nat} :
    choice.bind (as[·]?) = none ↔ ∀ i, choice = some i → as.length ≤ i := by
  cases choice with
  | none => simp
  | some i => simp

/-! ### How a choice ends -/

namespace Session

/-- The answer of a choice that does not fail, and the chooser afterwards. -/
inductive ChoiceEnds (g : Graph) (chooser : Chooser σ) (start : σ) : Answer → σ → Prop
  | noArtists (hnames : allArtists g = .ok []) : ChoiceEnds g chooser start .noArtists start
  | noMatch {names : List String} {choice : Option Nat} (hnames : allArtists g = .ok names)
      (hne : names ≠ []) (hchoice : (chooser names start).1 = .ok choice)
      (hnone : choice.bind (names[·]?) = none) :
      ChoiceEnds g chooser start .noMatch (chooser names start).2
  | songs {names titles : List String} {choice : Option Nat} {artist : String}
      (hnames : allArtists g = .ok names) (hchoice : (chooser names start).1 = .ok choice)
      (hartist : choice.bind (names[·]?) = some artist)
      (htitles : songsForArtist g artist = .ok titles) :
      ChoiceEnds g chooser start (.songsBy artist titles) (chooser names start).2

variable {g : Graph} {chooser : Chooser σ} {start after : σ} {a : Answer}

theorem ChoiceEnds.run_eq {c : Console σ} (h : ChoiceEnds g chooser c.chooser a after) :
    (songsOfChosen g chooser).run.run c = (.ok a, { c with chooser := after }) := by
  rw [run_songsOfChosen]
  cases h with
  | noArtists hnames => rw [hnames]
  | @noMatch names choice hnames hne hchoice hnone =>
    obtain ⟨name, rest, rfl⟩ := List.exists_cons_of_ne_nil hne
    rw [hnames]
    dsimp only
    rw [hchoice]
    dsimp only
    rw [hnone]
  | @songs names titles choice artist hnames hchoice hartist htitles =>
    cases names with
    | nil => cases choice <;> cases hartist
    | cons name rest =>
      rw [hnames]
      dsimp only
      rw [hchoice]
      dsimp only
      rw [hartist]
      dsimp only
      rw [htitles]
      rfl

theorem exists_choiceEnds {c : Console σ} (h : ((songsOfChosen g chooser).run.run c).1 = .ok a) :
    ∃ after, ChoiceEnds g chooser c.chooser a after := by
  rw [run_songsOfChosen] at h
  cases hnames : allArtists g with
  | error e =>
    rw [hnames] at h
    cases h
  | ok names =>
    rw [hnames] at h
    cases names with
    | nil =>
      cases h
      exact ⟨_, .noArtists hnames⟩
    | cons name rest =>
      dsimp only at h
      cases hchoice : (chooser (name :: rest) c.chooser).1 with
      | error e =>
        rw [hchoice] at h
        cases h
      | ok choice =>
        rw [hchoice] at h
        dsimp only at h
        cases hartist : choice.bind ((name :: rest)[·]?) with
        | none =>
          rw [hartist] at h
          cases h
          exact ⟨_, .noMatch hnames (List.cons_ne_nil _ _) hchoice hartist⟩
        | some artist =>
          rw [hartist] at h
          dsimp only at h
          cases htitles : songsForArtist g artist with
          | error e =>
            rw [htitles] at h
            cases h
          | ok titles =>
            rw [htitles] at h
            cases h
            exact ⟨_, .songs hnames hchoice hartist htitles⟩

section Ends

variable {names : List String} {choice : Option Nat} {artist : String} {i : Nat}

theorem ChoiceEnds.eq_noArtists (h : ChoiceEnds g chooser start a after)
    (hnames : allArtists g = .ok []) : a = .noArtists := by
  cases h with
  | noArtists => rfl
  | noMatch hnames' hne =>
    cases hnames.symm.trans hnames'
    exact absurd rfl hne
  | @songs _ _ choice artist hnames' _ hartist =>
    cases hnames.symm.trans hnames'
    obtain ⟨i, -, hget⟩ := Option.bind_eq_some_iff.mp hartist
    cases hget

theorem ChoiceEnds.eq_noMatch (h : ChoiceEnds g chooser start a after)
    (hnames : allArtists g = .ok names) (hne : names ≠ [])
    (hchoice : (chooser names start).1 = .ok choice)
    (hout : ∀ i, choice = some i → names.length ≤ i) : a = .noMatch := by
  cases h with
  | noArtists hnames' =>
    cases hnames.symm.trans hnames'
    exact absurd rfl hne
  | noMatch => rfl
  | songs hnames' hchoice' hartist =>
    cases hnames.symm.trans hnames'
    cases hchoice.symm.trans hchoice'
    cases (bind_getElem?_eq_none_iff.mpr hout).symm.trans hartist

theorem ChoiceEnds.eq_songsBy (h : ChoiceEnds g chooser start a after)
    (hnames : allArtists g = .ok names) (hchoice : (chooser names start).1 = .ok (some i))
    (hget : names[i]? = some artist) :
    ∃ titles, songsForArtist g artist = .ok titles ∧ a = .songsBy artist titles := by
  cases h with
  | noArtists hnames' =>
    cases hnames.symm.trans hnames'
    cases hget
  | noMatch hnames' hne hchoice' hnone =>
    cases hnames.symm.trans hnames'
    cases hchoice.symm.trans hchoice'
    cases hnone.symm.trans hget
  | @songs _ titles _ _ hnames' hchoice' hartist htitles =>
    cases hnames.symm.trans hnames'
    cases hchoice.symm.trans hchoice'
    cases hget.symm.trans hartist
    exact ⟨titles, htitles, rfl⟩

/-- A choice ends with songs if and only if a position of the list is chosen. -/
theorem ChoiceEnds.exists_songsBy_iff (h : ChoiceEnds g chooser start a after) :
    (∃ artist titles, a = .songsBy artist titles) ↔
      ∃ names i, allArtists g = .ok names ∧ (chooser names start).1 = .ok (some i) ∧
        i < names.length := by
  constructor
  · rintro ⟨artist, titles, rfl⟩
    cases h with
    | @songs names _ choice _ hnames hchoice hartist =>
      obtain ⟨i, rfl, hget⟩ := Option.bind_eq_some_iff.mp hartist
      exact ⟨names, i, hnames, hchoice, (List.getElem?_eq_some_iff.mp hget).1⟩
  · rintro ⟨names, i, hnames, hchoice, hi⟩
    obtain ⟨titles, -, rfl⟩ := h.eq_songsBy hnames hchoice (List.getElem?_eq_getElem hi)
    exact ⟨_, titles, rfl⟩

end Ends

end Session

namespace Request

open Session

variable {g : Graph} {chooser : Chooser σ} {start after : σ} {a : Answer}
  {threshold : Option Nat} {format : Format}

theorem answer_byArtist : answer g { question := .byArtist, threshold, format } chooser =
    songsOfChosen g chooser := by
  rw [answer]

theorem runFrom_of_choiceEnds (h : ChoiceEnds g chooser start a after) :
    runFrom g { question := .byArtist, threshold, format } chooser start =
      (.ok (), { printed := a.inFormat format, chooser := after }) := by
  have hrun := ChoiceEnds.run_eq (c := { chooser := start }) h
  rw [runFrom_eq, answer_byArtist, hrun]
  simp only [String.empty_append]

theorem exists_choiceEnds_of_runFrom
    (h : (runFrom g { question := .byArtist, threshold, format } chooser start).1 = .ok ()) :
    ∃ a after, ChoiceEnds g chooser start a after := by
  cases hanswer : ((songsOfChosen g chooser).run.run { chooser := start }).1 with
  | error e =>
    rw [← answer_byArtist] at hanswer
    cases h.symm.trans (runFrom_error_iff.mpr hanswer)
  | ok a =>
    obtain ⟨after, hends⟩ := exists_choiceEnds hanswer
    exact ⟨a, after, hends⟩

end Request

/-! ### What a choice prints as JSON -/

/-- A text that is one JSON document and a line break. -/
def Json.IsPrinted (s : String) : Prop :=
  ∃ spelling j, s = spelling ++ "\n" ∧ Json.read? spelling = some j

theorem Json.not_isPrinted (line : String) (h : Json.read? line = none) :
    ¬ Json.IsPrinted (line ++ "\n") := by
  rintro ⟨spelling, j, heq, hread⟩
  have hline : line = spelling := by
    have hlists := congrArg String.toList heq
    simp only [String.toList_append] at hlists
    exact String.toList_injective (List.append_cancel_right hlists)
  rw [hline, hread] at h
  cases h

theorem Answer.exists_songsBy_inFormat (artist : String) (titles : List String) :
    ∃ spelling, (Answer.songsBy artist titles).inFormat .json = spelling ++ "\n" ∧
      Json.read? spelling =
        some (.object [("artist", .text artist), ("songs", .array (titles.map .text))]) := by
  refine ⟨_, rfl, Json.read?_pretty (Request.whole_pair _ _ _ (.array fun j hj => ?_))⟩
  obtain ⟨title, -, rfl⟩ := List.mem_map.mp hj
  exact .text title

theorem Session.ChoiceEnds.isPrinted_iff {g : Graph} {chooser : Chooser σ} {start after : σ}
    {a : Answer} (h : ChoiceEnds g chooser start a after) :
    Json.IsPrinted (a.inFormat .json) ↔ ∃ artist titles, a = .songsBy artist titles := by
  cases h with
  | noArtists =>
    exact iff_of_false (Json.not_isPrinted "No artists found." (by decide)) (by simp)
  | noMatch =>
    exact iff_of_false (Json.not_isPrinted "No artist matches the answer given." (by decide))
      (by simp)
  | @songs _ titles _ artist =>
    obtain ⟨spelling, hprinted, hread⟩ := Answer.exists_songsBy_inFormat artist titles
    exact iff_of_true ⟨spelling, _, hprinted, hread⟩ ⟨artist, titles, rfl⟩

namespace Request

open Session

variable {g : Graph} {chooser : Chooser σ} {start after : σ} {threshold : Option Nat}

/-- The songs of a chosen artist are printed as one document, whatever names and titles are. Where
there is no artist or none is chosen, a remark is printed instead, which is no document. -/
theorem choice_in_json
    (h : (runFrom g { question := .byArtist, threshold, format := .json } chooser start).1 =
      .ok ()) :
    let printed :=
      (runFrom g { question := .byArtist, threshold, format := .json } chooser start).2.printed
    (∀ names i artist, allArtists g = .ok names → (chooser names start).1 = .ok (some i) →
      names[i]? = some artist →
        ∃ titles spelling, songsForArtist g artist = .ok titles ∧ printed = spelling ++ "\n" ∧
          Json.read? spelling =
            some (.object [("artist", .text artist), ("songs", .array (titles.map .text))])) ∧
      (allArtists g = .ok [] → printed = "No artists found.\n") ∧
      (∀ names choice, allArtists g = .ok names → names ≠ [] →
        (chooser names start).1 = .ok choice → (∀ i, choice = some i → names.length ≤ i) →
          printed = "No artist matches the answer given.\n") ∧
      (Json.IsPrinted printed ↔ ∃ names i, allArtists g = .ok names ∧
        (chooser names start).1 = .ok (some i) ∧ i < names.length) := by
  obtain ⟨a, after, hends⟩ := exists_choiceEnds_of_runFrom h
  rw [runFrom_of_choiceEnds hends]
  refine ⟨?_, ?_, ?_, ?_⟩
  · intro names i artist hnames hchoice hget
    obtain ⟨titles, htitles, rfl⟩ := hends.eq_songsBy hnames hchoice hget
    obtain ⟨spelling, hprinted, hread⟩ := Answer.exists_songsBy_inFormat artist titles
    exact ⟨titles, spelling, htitles, hprinted, hread⟩
  · intro hnames
    rw [hends.eq_noArtists hnames]
    rfl
  · intro names choice hnames hne hchoice hout
    rw [hends.eq_noMatch hnames hne hchoice hout]
    rfl
  · rw [← hends.exists_songsBy_iff]
    exact hends.isPrinted_iff

/-- A song by an artist whose name has to be escaped. -/
def quotedArtist : Track :=
  { address := "spotify:track:1"
    name := "A\\B"
    millis := 1000
    artist := ⟨"spotify:artist:x", "\"X\"\n"⟩
    album := ⟨"spotify:album:a", "A"⟩ }

theorem valid_quotedArtist : ∀ t ∈ [quotedArtist], t.Valid := by
  decide +kernel

theorem allArtists_quotedArtist :
    allArtists (Graph.ofTriples ([quotedArtist].flatMap Track.described)) = .ok ["\"X\"\n"] := by
  rw [allArtists, Graph.select, textsSpell.allArtists]
  decide +kernel

/-- What is printed is read back, quotes and line breaks included. -/
theorem choice_in_json_quotedArtist :
    ∃ g spelling, Graph.ofTracks [quotedArtist] = .ok g ∧
      runFrom g { question := .byArtist, format := .json } (fun _ s => (.ok (some 0), s)) () =
        (.ok (), { printed := spelling ++ "\n", chooser := () }) ∧
      Json.read? spelling =
        some (.object [("artist", .text "\"X\"\n"), ("songs", .array [.text "A\\B"])]) := by
  have h := Graph.ofTracks_eq_ok_iff.mpr ⟨valid_quotedArtist, rfl⟩
  have htitles : songsForArtist (Graph.ofTriples ([quotedArtist].flatMap Track.described))
      "\"X\"\n" = .ok ["A\\B"] := by
    rw [songsForArtist, Graph.select, readQuery?_songsForArtistText]
    decide +kernel
  have hends : ChoiceEnds _ (fun _ s => (.ok (some 0), s)) () (.songsBy "\"X\"\n" ["A\\B"]) () :=
    .songs allArtists_quotedArtist rfl rfl htitles
  have hrun : runFrom _ { question := .byArtist, format := .json } _ () = _ :=
    runFrom_of_choiceEnds hends
  obtain ⟨hchosen, -⟩ := choice_in_json (congrArg Prod.fst hrun)
  obtain ⟨titles, spelling, htitles', hprinted, hread⟩ := hchosen _ 0 _ allArtists_quotedArtist rfl rfl
  cases htitles.symm.trans htitles'
  refine ⟨_, spelling, h, ?_, hread⟩
  rw [hrun] at hprinted
  dsimp only at hprinted
  rw [hrun, hprinted]

/-- Without artists, and without a choice, a remark is printed that is no document. -/
theorem remarks_are_no_documents :
    let request : Request := { question := .byArtist, format := .json }
    let nobody : Chooser Unit := fun _ s => (.ok none, s)
    request.runFrom Graph.empty nobody () =
        (.ok (), { printed := "No artists found.\n", chooser := () }) ∧
      (∃ g, Graph.ofTracks [quotedArtist] = .ok g ∧ request.runFrom g nobody () =
        (.ok (), { printed := "No artist matches the answer given.\n", chooser := () })) ∧
      ¬ Json.IsPrinted "No artists found.\n" ∧
      ¬ Json.IsPrinted "No artist matches the answer given.\n" := by
  intro request nobody
  have hempty : allArtists Graph.empty = .ok [] := by
    rw [allArtists, Graph.select, textsSpell.allArtists]
    decide +kernel
  have h := Graph.ofTracks_eq_ok_iff.mpr ⟨valid_quotedArtist, rfl⟩
  have hends : ChoiceEnds _ nobody () .noMatch () :=
    .noMatch allArtists_quotedArtist (List.cons_ne_nil _ _) rfl rfl
  refine ⟨runFrom_of_choiceEnds (.noArtists hempty), ⟨_, h, runFrom_of_choiceEnds hends⟩, ?_, ?_⟩
  · exact Json.not_isPrinted "No artists found." (by decide)
  · exact Json.not_isPrinted "No artist matches the answer given." (by decide)

end Request

end Songbook
