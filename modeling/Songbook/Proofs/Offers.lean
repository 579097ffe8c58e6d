import Songbook.Proofs.Catalog.SongsByName
import Songbook.Proofs.Choices

/-!
# What can be chosen

A chooser is asked at most once in a session, and about all artists of the graph: `runFrom_noting`.
On a graph of tracks every choice that it can make has songs, and the songs of all choices are all
songs by artist: `choices_cover_songs`.
-/

namespace Songbook

open Catalog

variable {σ : Type}

/-- A chooser that also notes every list that it is asked about. -/
def Session.noting (chooser : Chooser σ) : Chooser (σ × List (List String)) :=
  fun artists state =>
    let (choice, next) := chooser artists state.1
    (choice, next, state.2 ++ [artists])

namespace Request

open Session

variable {g : Graph} {chooser : Chooser σ}

/-- Noting changes no answer. -/
theorem outcome_answer_noting (g : Graph) (r : Request) (chooser : Chooser σ) (start : σ)
    (asked : List (List String)) :
    ((r.answer g (noting chooser)).run.run { chooser := (start, asked) }).1 =
      ((r.answer g chooser).run.run { chooser := start }).1 := by
  obtain ⟨question, threshold, format⟩ := r
  cases question with
  | byArtist =>
    rw [answer_byArtist, answer_byArtist, run_songsOfChosen, run_songsOfChosen]
    cases allArtists g with
    | error e => rfl
    | ok names =>
      cases names with
      | nil => rfl
      | cons name names =>
        dsimp only [noting]
        cases (chooser (name :: names) start).1 with
        | error e => rfl
        | ok choice =>
          dsimp only
          cases choice.bind ((name :: names)[·]?) <;> rfl
  | longerThan =>
    cases threshold with
    | none => rfl
    | some seconds => simp only [answer, run_lift_map]
  | _ => simp only [answer, run_lift_map]

/-- What is shown of a session depends on its answer alone. -/
theorem shown_runFrom_eq (g : Graph) (r : Request) (chooser : Chooser σ) (start : σ) :
    ((r.runFrom g chooser start).1, (r.runFrom g chooser start).2.printed) =
      match ((r.answer g chooser).run.run { chooser := start }).1 with
      | .ok a => (.ok (), a.inFormat r.format)
      | .error e => (.error e, "") := by
  have hprinted := printed_answer g r chooser { chooser := start }
  rw [runFrom_eq]
  cases hanswer : (r.answer g chooser).run.run { chooser := start } with
  | mk outcome c =>
    rw [hanswer] at hprinted
    dsimp only at hprinted
    cases outcome with
    | error e => simp only [hprinted]
    | ok a => simp only [hprinted, String.empty_append]

/-- A session that is noted goes on as before, and the chooser has been asked about the artists
that were offered, if any were. -/
theorem runFrom_noting (g : Graph) (r : Request) (chooser : Chooser σ) (start : σ) :
    r.runFrom g (noting chooser) (start, []) =
      ((r.runFrom g chooser start).1,
        { printed := (r.runFrom g chooser start).2.printed
          chooser := ((r.runFrom g chooser start).2.chooser, (r.offered? g).toList) }) := by
  have hshown : ((r.runFrom g (noting chooser) (start, [])).1,
      (r.runFrom g (noting chooser) (start, [])).2.printed) =
        ((r.runFrom g chooser start).1, (r.runFrom g chooser start).2.printed) := by
    rw [shown_runFrom_eq, shown_runFrom_eq, outcome_answer_noting]
  obtain ⟨houtcome, hprinted⟩ := Prod.mk.inj hshown
  have hchooser : (r.runFrom g (noting chooser) (start, [])).2.chooser =
      ((r.runFrom g chooser start).2.chooser, (r.offered? g).toList) := by
    rw [chooser_runFrom, chooser_runFrom]
    cases r.offered? g <;> rfl
  refine Prod.ext houtcome ?_
  cases hconsole : (r.runFrom g (noting chooser) (start, [])).2 with
  | mk printed asked =>
    rw [hconsole] at hprinted hchooser
    exact congrArg₂ Console.mk hprinted hchooser

/-- The chooser of a session that is noted has been asked no more than once, and about all artists
if there are any. -/
theorem asked_runFrom_noting (g : Graph) (r : Request) (chooser : Chooser σ) (start : σ) :
    let asked := (r.runFrom g (noting chooser) (start, [])).2.chooser.2
    asked.length ≤ 1 ∧ ∀ artists, asked = [artists] ↔
      r.question = .byArtist ∧ allArtists g = .ok artists ∧ artists ≠ [] := by
  intro asked
  have hasked : asked = (r.offered? g).toList :=
    congrArg (·.2.chooser.2) (runFrom_noting g r chooser start)
  rw [hasked]
  constructor
  · cases r.offered? g with
    | none => exact Nat.zero_le 1
    | some artists => exact Nat.le_refl 1
  · intro artists
    rw [← offered?_eq_some_iff]
    cases r.offered? g with
    | none => simp
    | some offered => simp

theorem text_songsBy_ne (artist : String) (titles : List String) {remark : String}
    (h : remark.toList.head? ≠ some 'S') : (Answer.songsBy artist titles).text ≠ remark := by
  intro heq
  apply h
  rw [← heq, Answer.text, Answer.textLines, Text.lines]
  simp

/-- How a choice ends where every name of an artist is a text: the choice is one of the names that
have songs, or it is none of them. -/
theorem exists_choiceEnds_of_plain (h : g.NamesArePlain) {start : σ} {choice : Option Nat}
    (hchoice : g.songsByName ≠ [] →
      (chooser (g.songsByName.map Prod.fst) start).1 = .ok choice) :
    ∃ a after, ChoiceEnds g chooser start a after ∧
      ((a = .noArtists ∧ g.songsByName = []) ∨
        (a = .noMatch ∧ g.songsByName ≠ [] ∧ ∀ i, choice = some i → g.songsByName.length ≤ i) ∨
        ∃ i artist titles, choice = some i ∧ g.songsByName[i]? = some (artist, titles) ∧
          a = .songsBy artist titles) := by
  have hnames := Graph.allArtists_eq_songsByName h
  by_cases hne : g.songsByName = []
  · rw [hne] at hnames
    exact ⟨_, _, .noArtists hnames, .inl ⟨rfl, hne⟩⟩
  · have hmap : g.songsByName.map Prod.fst ≠ [] := by simpa using hne
    cases hartist : choice.bind ((g.songsByName.map Prod.fst)[·]?) with
    | none =>
      have hout := bind_getElem?_eq_none_iff.mp hartist
      rw [List.length_map] at hout
      exact ⟨_, _, .noMatch hnames hmap (hchoice hne) hartist, .inr (.inl ⟨rfl, hne, hout⟩)⟩
    | some artist =>
      obtain ⟨i, rfl, hget⟩ := Option.bind_eq_some_iff.mp hartist
      rw [List.getElem?_map, Option.map_eq_some_iff] at hget
      obtain ⟨⟨_, titles⟩, hget, rfl⟩ := hget
      have htitles := Graph.songsForArtist_eq_songsByName h (List.mem_of_getElem? hget)
      exact ⟨_, _, .songs hnames (hchoice hne) hartist htitles,
        .inr (.inr ⟨i, _, titles, rfl, hget, rfl⟩)⟩

/-- What is printed of a choice tells how it ended. -/
theorem printed_of_choice (h : g.NamesArePlain) {start : σ} {threshold choice : Option Nat}
    (hchoice : g.songsByName ≠ [] →
      (chooser (g.songsByName.map Prod.fst) start).1 = .ok choice) :
    let session := runFrom g { question := .byArtist, threshold, format := .text } chooser start
    session.1 = .ok () ∧
      (session.2.printed = "No artists found.\n" ↔ g.songsByName = []) ∧
      (session.2.printed = "No artist matches the answer given.\n" ↔
        g.songsByName ≠ [] ∧ ∀ i, choice = some i → g.songsByName.length ≤ i) ∧
      ∀ i artist titles, choice = some i → g.songsByName[i]? = some (artist, titles) →
        session.2.printed =
          Text.lines (("Songs by " ++ artist ++ ":") :: titles.map (" - " ++ ·)) := by
  obtain ⟨a, after, hends, hcases⟩ := exists_choiceEnds_of_plain h hchoice
  have hremarks : "No artists found.\n" ≠ "No artist matches the answer given.\n" := by decide
  intro session
  have hsession : session = (.ok (), { printed := a.text, chooser := after }) :=
    runFrom_of_choiceEnds hends
  rw [hsession]
  obtain ⟨rfl, hnil⟩ | ⟨rfl, hne, hout⟩ | ⟨i, artist, titles, rfl, hget, rfl⟩ := hcases
  · refine ⟨rfl, iff_of_true rfl hnil, iff_of_false hremarks fun h => h.1 hnil, ?_⟩
    intro i artist titles _ hget
    rw [hnil] at hget
    cases hget
  · refine ⟨rfl, iff_of_false hremarks.symm hne, iff_of_true rfl ⟨hne, hout⟩, ?_⟩
    intro i artist titles hi hget
    have hlt := (List.getElem?_eq_some_iff.mp hget).1
    have hle := hout i hi
    omega
  · have hlt := (List.getElem?_eq_some_iff.mp hget).1
    have hne : g.songsByName ≠ [] := List.ne_nil_of_length_pos (by omega)
    refine ⟨rfl, iff_of_false (text_songsBy_ne _ _ (by decide)) hne,
      iff_of_false (text_songsBy_ne _ _ (by decide)) fun h => ?_, ?_⟩
    · have hle := h.2 i rfl
      omega
    · intro i' artist' titles' hi hget'
      cases hi
      cases hget.symm.trans hget'
      rfl

/-- A chooser is asked at most once, about all artists if there are any, when an artist is to be
chosen and never else. On a graph of tracks, what is printed depends on the choice only: a remark if
there are no artists, another if none of them is chosen, and otherwise the songs of the one that is.
There is a song by each, and the songs of all of them, in order, are the songs by artist. -/
theorem choices_cover_songs :
    (∀ (σ : Type) (g : Graph) (r : Request) (chooser : Chooser σ) (start : σ),
      let session := r.runFrom g chooser start
      let noted := r.runFrom g (noting chooser) (start, [])
      noted.1 = session.1 ∧ noted.2.printed = session.2.printed ∧
        noted.2.chooser.1 = session.2.chooser ∧ noted.2.chooser.2.length ≤ 1 ∧
        ∀ artists, noted.2.chooser.2 = [artists] ↔
          r.question = .byArtist ∧ allArtists g = .ok artists ∧ artists ≠ []) ∧
    ∀ ts g, Graph.ofTracks ts = .ok g →
      ∃ (listings : List (String × List String)) (rows : List ArtistSong),
        allArtists g = .ok (listings.map Prod.fst) ∧ songsByArtist g = .ok rows ∧
        (listings = [] ↔ ts = []) ∧
        (listings.flatMap fun listed => listed.2.map (ArtistSong.mk listed.1)) = rows ∧
        (∀ artist titles, (artist, titles) ∈ listings → titles ≠ [] ∧
          titles = (rows.filter (·.artist = artist)).map ArtistSong.title) ∧
        ∀ (σ : Type) (chooser : Chooser σ) (start : σ) (threshold choice : Option Nat),
          (listings ≠ [] → (chooser (listings.map Prod.fst) start).1 = .ok choice) →
            let session :=
              runFrom g { question := .byArtist, threshold, format := .text } chooser start
            session.1 = .ok () ∧
              (session.2.printed = "No artists found.\n" ↔ listings = []) ∧
              (session.2.printed = "No artist matches the answer given.\n" ↔
                listings ≠ [] ∧ ∀ i, choice = some i → listings.length ≤ i) ∧
              ∀ i artist titles, choice = some i → listings[i]? = some (artist, titles) →
                session.2.printed =
                  Text.lines (("Songs by " ++ artist ++ ":") :: titles.map (" - " ++ ·)) := by
  refine ⟨fun σ g r chooser start => ?_, fun ts g hg => ?_⟩
  · intro session noted
    have hnoted : noted = _ := runFrom_noting g r chooser start
    have hasked := asked_runFrom_noting g r chooser start
    refine ⟨?_, ?_, ?_, hasked⟩ <;> rw [hnoted]
  · have hplain := Graph.namesArePlain_of_ofTracks hg
    refine ⟨g.songsByName, _, Graph.allArtists_eq_songsByName hplain, songsByArtist_eq hplain,
      Graph.songsByName_eq_nil_iff hg, Graph.flatMap_songsByName g, fun artist titles hmem =>
        ⟨Graph.titles_ne_nil_of_mem_songsByName hg hmem, Graph.titles_of_mem_songsByName hmem⟩, ?_⟩
    intro σ chooser start threshold choice hchoice
    exact printed_of_choice hplain hchoice

/-- Two artists with one name, with a song each, and a third artist. -/
def namesakeArtists : List Track :=
  [⟨"spotify:track:1", "C", 1000, ⟨"spotify:artist:x", "X"⟩, ⟨"spotify:album:a", "A"⟩⟩,
    ⟨"spotify:track:2", "D", 1000, ⟨"spotify:artist:y", "Y"⟩, ⟨"spotify:album:a", "A"⟩⟩,
    ⟨"spotify:track:3", "B", 1000, ⟨"spotify:artist:z", "X"⟩, ⟨"spotify:album:a", "A"⟩⟩]

/-- One choice has the songs of both artists, and no choice is the third. -/
theorem choices_cover_songs_namesakeArtists :
    ∃ g, Graph.ofTracks namesakeArtists = .ok g ∧
      let printed (choice : Nat) :=
        (runFrom g { question := .byArtist, format := .text } (fun _ s => (.ok (some choice), s))
          ()).2.printed
      printed 0 = "Songs by X:\n - B\n - C\n" ∧
        printed 2 = "No artist matches the answer given.\n" := by
  have hvalid : ∀ t ∈ namesakeArtists, t.Valid := by decide +kernel
  have h := Graph.ofTracks_eq_ok_iff.mpr ⟨hvalid, rfl⟩
  have hnames : allArtists (Graph.ofTriples (namesakeArtists.flatMap Track.described)) =
      .ok ["X", "Y"] := by
    rw [allArtists, Graph.select, textsSpell.allArtists]
    decide +kernel
  have hsongs : songsByArtist (Graph.ofTriples (namesakeArtists.flatMap Track.described)) =
      .ok [⟨"X", "B"⟩, ⟨"X", "C"⟩, ⟨"Y", "D"⟩] := by
    rw [songsByArtist, Graph.select, textsSpell.songsByArtist]
    decide +kernel
  obtain ⟨-, hcover⟩ := choices_cover_songs
  obtain ⟨listings, rows, hlisted, hrows, -, -, htitles, hprinted⟩ := hcover _ _ h
  cases hsongs.symm.trans hrows
  have hfst : listings.map Prod.fst = ["X", "Y"] := Except.ok.inj (hlisted.symm.trans hnames)
  have hlength : listings.length = 2 := by simpa using congrArg List.length hfst
  obtain ⟨⟨artist, titles⟩, rest, rfl, rfl, -⟩ := List.map_eq_cons_iff.mp hfst
  obtain ⟨-, rfl⟩ := htitles _ titles List.mem_cons_self
  refine ⟨_, h, ?_, ?_⟩
  · obtain ⟨-, -, -, hchosen⟩ := hprinted Unit (fun _ s => (.ok (some 0), s)) () none (some 0)
      fun _ => rfl
    exact hchosen 0 _ _ rfl rfl
  · obtain ⟨-, -, hnone, -⟩ := hprinted Unit (fun _ s => (.ok (some 2), s)) () none (some 2)
      fun _ => rfl
    refine hnone.mpr ⟨List.cons_ne_nil _ _, fun i hi => ?_⟩
    cases hi
    omega

end Request

end Songbook
