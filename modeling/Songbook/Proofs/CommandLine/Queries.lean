import Songbook.CommandLine.Run
import Songbook.Proofs.Catalog.Texts
import Songbook.Proofs.Outcome
import Songbook.Proofs.Sessions

/-!
# Queries on the command line

A query is checked before its graph is loaded, and its graph is loaded before the input is read.
So what is wrong with the request shows in the same way whatever the files are, and what is wrong
with the graph shows in the same way whatever the input is. A query that fails puts out nothing
but the listing of artists to choose from, and no query changes a file: `query_in_order`.
-/

namespace Songbook

variable {question : Question} {threshold : Option String} {format : Format}

namespace Request

/-- A request is refused only for a threshold that is missing or no clock reading, where one is
needed. -/
theorem make_eq_error_iff {e : Error} :
    make question threshold format = .error e ↔
      question = .longerThan ∧
        match threshold with
        | none => e = .input .missingThreshold
        | some text =>
          Duration.secondsOfClock text.toList = none ∧ e = .input (.notALength text) := by
  cases question with
  | longerThan =>
    cases threshold with
    | none => simp [make, eq_comm]
    | some text =>
      simp only [make, Duration.readClock, true_and]
      cases Duration.secondsOfClock text.toList with
      | none =>
        simp [eq_comm]
      | some seconds => simp
  | _ => simp [make]

theorem question_of_make {r : Request} (h : make question threshold format = .ok r) :
    r.question = question := by
  cases question with
  | longerThan =>
    cases threshold with
    | none => cases h
    | some text =>
      obtain ⟨seconds, -, h⟩ := bind_eq_ok_iff.mp h
      cases h
      rfl
  | _ => cases h; rfl

end Request

namespace CommandLine

open Catalog Sparql

variable {s : Surroundings} {path : String} {r : Request} {g : Graph} {e : Error}

/-- What a command shows: its exit code, what it puts out and what it says about a failure. -/
structure Shown where
  code : Nat
  out : String
  err : String
  deriving DecidableEq, Repr

def Outcome.shown (o : Outcome) : Shown where
  code := o.code
  out := o.out
  err := o.err

theorem failureText_input (fault : InputFault) :
    failureText (.input fault) = "Error: Invalid input: " ++ fault.reason ++ "\n" := by
  have hmessage : (Error.input fault).message = "Invalid input: " ++ fault.reason := rfl
  have hjoined : "Error: " ++ "Invalid input: " = "Error: Invalid input: " := by simp
  rw [failureText, hmessage, ← String.append_assoc, hjoined]

/-- The listing of the artists among whom one is to be chosen, if it comes to a choice. -/
def promptText (g : Graph) (r : Request) : String := ((r.offered? g).map Prompt.listing).getD ""

theorem promptText_of_offered {artists : List String} (hquestion : r.question = .byArtist)
    (hartists : allArtists g = .ok artists) (hne : artists ≠ []) :
    promptText g r = Prompt.listing artists := by
  rw [promptText, Request.offered?_eq_some_iff.mpr ⟨hquestion, hartists, hne⟩]
  rfl

theorem promptText_of_not_offered
    (h : r.question = .byArtist → ∀ artists, allArtists g = .ok artists → artists = []) :
    promptText g r = "" := by
  cases hoffered : r.offered? g with
  | none => rw [promptText, hoffered]; rfl
  | some artists =>
    obtain ⟨hquestion, hartists, hne⟩ := Request.offered?_eq_some_iff.mp hoffered
    exact absurd (h hquestion artists hartists) hne

theorem exists_of_promptText_ne (h : promptText g r ≠ "") :
    r.question = .byArtist ∧
      ∃ artists, allArtists g = .ok artists ∧ promptText g r = Prompt.listing artists := by
  cases hoffered : r.offered? g with
  | none => exact absurd (by rw [promptText, hoffered]; rfl) h
  | some artists =>
    obtain ⟨hquestion, hartists, hne⟩ := Request.offered?_eq_some_iff.mp hoffered
    exact ⟨hquestion, artists, hartists, promptText_of_offered hquestion hartists hne⟩

theorem shown_runFrom (g : Graph) (r : Request) (input : List UInt8) :
    (r.runFrom g Prompt.select { unread := input }).2.chooser.shown = promptText g r := by
  have hselect : ∀ artists (p : Prompt),
      (Prompt.select artists p).2.shown = p.shown ++ Prompt.listing artists := by
    intro artists p
    unfold Prompt.select
    dsimp only
    split <;> rfl
  rw [Request.chooser_runFrom, promptText]
  cases r.offered? g with
  | none => rfl
  | some artists => simp [hselect]

/-! ### The three stages of a query -/

theorem disk_query : (query s question threshold path format).disk = s.disk := by
  unfold query
  dsimp only
  split
  · rfl
  · split
    · rfl
    · split <;> rfl

theorem shown_query_of_refused (h : Request.make question threshold format = .error e) :
    (query s question threshold path format).shown = ⟨1, "", failureText e⟩ := by
  unfold query
  rw [h]
  rfl

theorem shown_query_of_unloaded (hmake : Request.make question threshold format = .ok r)
    (hload : Graph.load s.disk.tree path = .error e) :
    (query s question threshold path format).shown = ⟨1, "", failureText e⟩ := by
  unfold query
  rw [hmake]
  dsimp only
  rw [hload]
  rfl

theorem shown_query_of_answered (hmake : Request.make question threshold format = .ok r)
    (hload : Graph.load s.disk.tree path = .ok g)
    (hsession : (r.runFrom g Prompt.select { unread := s.input }).1 = .ok ()) :
    (query s question threshold path format).shown =
      ⟨0, promptText g r ++ (r.runFrom g Prompt.select { unread := s.input }).2.printed, ""⟩ := by
  unfold query
  rw [hmake]
  dsimp only
  rw [hload, ← shown_runFrom g r s.input]
  dsimp only
  rw [hsession]
  rfl

/-- A session that fails has printed nothing, so only the listing is left. -/
theorem shown_query_of_failed (hmake : Request.make question threshold format = .ok r)
    (hload : Graph.load s.disk.tree path = .ok g)
    (hsession : (r.runFrom g Prompt.select { unread := s.input }).1 = .error e) :
    (query s question threshold path format).shown = ⟨1, promptText g r, failureText e⟩ := by
  have hprinted := Request.printed_of_runFrom_error hsession
  unfold query
  rw [hmake]
  dsimp only
  rw [hload, ← shown_runFrom g r s.input]
  dsimp only
  rw [hsession, hprinted]
  exact congrArg (Shown.mk 1 · (failureText e)) String.append_empty

theorem out_query_of_loaded (hmake : Request.make question threshold format = .ok r)
    (hload : Graph.load s.disk.tree path = .ok g) :
    (query s question threshold path format).out =
      promptText g r ++ (r.runFrom g Prompt.select { unread := s.input }).2.printed := by
  cases hsession : (r.runFrom g Prompt.select { unread := s.input }).1 with
  | ok u => exact congrArg Shown.out (shown_query_of_answered hmake hload hsession)
  | error e =>
    rw [Request.printed_of_runFrom_error hsession, String.append_empty]
    exact congrArg Shown.out (shown_query_of_failed hmake hload hsession)

/-- A query that fails puts out nothing but the listing of the artists, if there is one. -/
theorem out_query_of_code (hcode : (query s question threshold path format).code = 1)
    (hout : (query s question threshold path format).out ≠ "") :
    question = .byArtist ∧ ∃ g artists, Graph.load s.disk.tree path = .ok g ∧
      allArtists g = .ok artists ∧
      (query s question threshold path format).out = Prompt.listing artists := by
  cases hmake : Request.make question threshold format with
  | error e => exact absurd (congrArg Shown.out (shown_query_of_refused hmake)) hout
  | ok r =>
    cases hload : Graph.load s.disk.tree path with
    | error e => exact absurd (congrArg Shown.out (shown_query_of_unloaded hmake hload)) hout
    | ok g =>
      cases hsession : (r.runFrom g Prompt.select { unread := s.input }).1 with
      | ok u =>
        have hzero := congrArg Shown.code (shown_query_of_answered hmake hload hsession)
        exact absurd (hcode.symm.trans hzero) Nat.one_ne_zero
      | error e =>
        have hprompt : (query s question threshold path format).out = promptText g r :=
          congrArg Shown.out (shown_query_of_failed hmake hload hsession)
        obtain ⟨hquestion, artists, hartists, hlisting⟩ :=
          exists_of_promptText_ne (hprompt ▸ hout)
        exact ⟨Request.question_of_make hmake ▸ hquestion, g, artists, rfl, hartists,
          hprompt.trans hlisting⟩

theorem run_query {arguments : List String}
    (h : readArguments arguments = .command (.query question threshold path format))
    (s : Surroundings) : run s arguments = query s question threshold path format := by
  rw [run, h]

/-- A query fails at the first of three stages, each of which depends only on what it looks at: the
request on the arguments, the graph on the files, and the session on the input as well. What is put
out is what the session prints, behind the listing of the artists if one of them is to be chosen,
and before a failure nothing but that listing. The files stay as they are. -/
theorem query_in_order {arguments : List String}
    (h : readArguments arguments = .command (.query question threshold path format)) :
    (∀ s, (run s arguments).disk = s.disk) ∧
    ((∃ e, Request.make question threshold format = .error e) ↔
      question = .longerThan ∧
        ∀ text, threshold = some text → Duration.secondsOfClock text.toList = none) ∧
    (∀ e, Request.make question threshold format = .error e →
      ∃ fault, e = .input fault ∧ ∀ s, (run s arguments).shown =
        ⟨1, "", "Error: Invalid input: " ++ fault.reason ++ "\n"⟩) ∧
    (∀ r, Request.make question threshold format = .ok r → ∀ s,
      (∀ e, Graph.load s.disk.tree path = .error e → ∀ environment input service,
        (run { environment, input, service, disk := s.disk } arguments).shown =
          ⟨1, "", failureText e⟩) ∧
      ∀ g, Graph.load s.disk.tree path = .ok g →
        let session := r.runFrom g Prompt.select { unread := s.input }
        (question = .byArtist → ∀ artists, allArtists g = .ok artists → artists ≠ [] →
          (run s arguments).out = Prompt.listing artists ++ session.2.printed) ∧
        ((question = .byArtist → ∀ artists, allArtists g = .ok artists → artists = []) →
          (run s arguments).out = session.2.printed) ∧
        ((run s arguments).code = 0 ∧ (run s arguments).err = "" ↔ session.1 = .ok ()) ∧
        ∀ e, session.1 = .error e →
          (run s arguments).code = 1 ∧ (run s arguments).err = failureText e) ∧
    ∀ s, (run s arguments).code = 1 → (run s arguments).out ≠ "" →
      question = .byArtist ∧ ∃ g artists, Graph.load s.disk.tree path = .ok g ∧
        allArtists g = .ok artists ∧ (run s arguments).out = Prompt.listing artists := by
  simp only [run_query h]
  refine ⟨fun s => disk_query, ?_, ?_, ?_, fun s => out_query_of_code⟩
  · simp only [Request.make_eq_error_iff, exists_and_left]
    refine and_congr_right fun _ => ?_
    cases threshold with
    | none => simp
    | some text => simp
  · intro e hmake
    obtain ⟨fault, rfl⟩ : ∃ fault, e = .input fault := by
      obtain ⟨-, he⟩ := Request.make_eq_error_iff.mp hmake
      split at he
      · exact ⟨_, he⟩
      · exact ⟨_, he.2⟩
    refine ⟨fault, rfl, fun s => ?_⟩
    rw [shown_query_of_refused hmake, failureText_input]
  · intro r hmake s
    have hquestion := Request.question_of_make hmake
    refine ⟨fun e hload environment input service => shown_query_of_unloaded hmake hload, ?_⟩
    intro g hload
    have hout := out_query_of_loaded (s := s) hmake hload
    refine ⟨?_, ?_, ?_⟩
    · intro hartist artists hartists hne
      rw [hout, promptText_of_offered (hquestion.trans hartist) hartists hne]
    · intro hnone
      rw [hout, promptText_of_not_offered (hquestion ▸ hnone), String.empty_append]
    · cases hsession : (r.runFrom g Prompt.select { unread := s.input }).1 with
      | ok u =>
        have hshown := shown_query_of_answered hmake hload hsession
        have hends := And.intro (congrArg Shown.code hshown) (congrArg Shown.err hshown)
        exact ⟨iff_of_true hends rfl, fun e he => nomatch he⟩
      | error e =>
        have hshown := shown_query_of_failed hmake hload hsession
        have hcode : (query s question threshold path format).code = 1 :=
          congrArg Shown.code hshown
        refine ⟨iff_of_false (fun hok => ?_) (fun he => nomatch he), ?_⟩
        · exact absurd (hcode.symm.trans hok.1) Nat.one_ne_zero
        · rintro e' ⟨⟩
          exact ⟨hcode, congrArg Shown.err hshown⟩

/-- A song of one artist, in the file `songs.ttl`, and an input that is no text. -/
def unreadableChoice : Surroundings where
  input := [0xFF, 10]
  disk :=
    { tree :=
        { entries :=
            [(["songs.ttl"], .file (Text.lines
              ["@prefix s: <http://schema.org/> .",
                "<r:1> a s:MusicRecording ; s:name \"Vals\" ; s:byArtist <a:1> .",
                "<a:1> s:name \"Ana\" ."]).toUTF8)] } }

/-- The artists are listed, and then the choice cannot be read. -/
theorem query_in_order_unreadableChoice :
    let arguments := ["query", "-q", "by_artist", "--graph=songs.ttl"]
    readArguments arguments = .command (.query .byArtist none "songs.ttl" .text) ∧
      (run unreadableChoice arguments).code = 1 ∧
      (run unreadableChoice arguments).out = Prompt.listing ["Ana"] := by
  intro arguments
  have harguments : readArguments arguments = .command (.query .byArtist none "songs.ttl" .text) :=
    by decide +kernel
  obtain ⟨g, hload, hrow⟩ : ∃ g, Graph.load unreadableChoice.disk.tree "songs.ttl" = .ok g ∧
      allArtistsQuery.run g = ([[(artistName, .literal (.plain "Ana"))]] : List Row) :=
    exists_of_map_toOption (by decide +kernel)
  have hartists : allArtists g = .ok ["Ana"] := by
    have hselect : g.select allArtistsText = .ok [[(artistName, .literal (.plain "Ana"))]] := by
      rw [Graph.select, textsSpell.allArtists, ← hrow]
    exact bind_eq_ok_iff.mpr ⟨_, hselect, rfl⟩
  have hsession : ((Request.mk .byArtist none .text).runFrom g Prompt.select
      { unread := unreadableChoice.input }).1 = .error (.file .notText) := by
    have hselect : (Prompt.select ["Ana"] { unread := unreadableChoice.input }).1 =
        .error (.file .notText) := by decide +kernel
    rw [Request.runFrom_error_iff]
    change ((Session.songsOfChosen g Prompt.select).run.run _).1 = _
    rw [Session.run_songsOfChosen, hartists]
    dsimp only
    rw [hselect]
  obtain ⟨-, -, -, hmade, -⟩ := query_in_order harguments
  obtain ⟨-, hloaded⟩ := hmade ⟨.byArtist, none, .text⟩ rfl unreadableChoice
  obtain ⟨hlisted, -, -, herror⟩ := hloaded g hload
  refine ⟨harguments, (herror _ hsession).1, ?_⟩
  rw [hlisted rfl _ hartists (List.cons_ne_nil _ _), Request.printed_of_runFrom_error hsession,
    String.append_empty]

end CommandLine

end Songbook
