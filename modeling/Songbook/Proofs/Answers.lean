import Songbook.Proofs.Catalog.Texts
import Songbook.Proofs.Json.RoundTrip
import Songbook.Proofs.Sessions

/-!
# Answers in either form

An answer is found before anything is printed, and it is found in the same way for either form.
So the two forms fail alike, and what is printed as JSON is read back as the value from which the
lines of the text are made.
`Request.formats_agree` says so for the questions that need no choice.
-/

namespace Songbook

variable {α : Type}

namespace Request

/-! ### The two forms -/

/-- In either form a question fails with the failure of an outcome, and nothing is printed then.
Otherwise some lines are printed as text, and as JSON a document and a line break. The remark
that there are no results is printed exactly for an empty document. -/
structure Prints (g : Graph) (question : Question) (threshold : Option Nat)
    (outcome : Except Error α) (lines : α → List String) (document : α → Json) : Prop where
  fails : ∀ e, outcome = .error e →
    ∀ (σ : Type) (chooser : Chooser σ) (start : σ) (format : Format),
      runFrom g { question, threshold, format } chooser start =
        (.error e, { printed := "", chooser := start })
  text : ∀ a, outcome = .ok a → ∀ (σ : Type) (chooser : Chooser σ) (start : σ),
    runFrom g { question, threshold, format := .text } chooser start =
      (.ok (), { printed := Text.lines (lines a), chooser := start })
  json : ∀ a, outcome = .ok a → ∃ spelling, Json.read? spelling = some (document a) ∧
    ∀ (σ : Type) (chooser : Chooser σ) (start : σ),
      runFrom g { question, threshold, format := .json } chooser start =
        (.ok (), { printed := spelling ++ "\n", chooser := start })
  remark : ∀ a, Text.lines (lines a) = "No results.\n" ↔
    document a = .array [] ∨ document a = .null

/-- The form of an answer decides what is printed, and the answer does not depend on the form. -/
theorem Prints.of_answer {g : Graph} {question : Question} {threshold : Option Nat}
    {outcome : Except Error α} (make : α → Answer) {lines : α → List String} {document : α → Json}
    (hanswer : ∀ (σ : Type) (chooser : Chooser σ) (format : Format) (c : Console σ),
      (answer g { question, threshold, format } chooser).run.run c = (make <$> outcome, c))
    (hlines : ∀ a, (make a).textLines = lines a)
    (hdocument : ∀ a, (make a).document? = some (document a))
    (hwhole : ∀ a, (document a).Whole)
    (hremark : ∀ a, Text.lines (lines a) = "No results.\n" ↔
      document a = .array [] ∨ document a = .null) :
    Prints g question threshold outcome lines document where
  fails := by
    rintro e rfl σ chooser start format
    rw [runFrom_eq, hanswer]
    rfl
  text := by
    rintro a rfl σ chooser start
    rw [runFrom_eq, hanswer]
    simp [Answer.inFormat, Answer.text, hlines]
  json := by
    rintro a rfl
    refine ⟨(document a).pretty, Json.read?_pretty (hwhole a), ?_⟩
    intro σ chooser start
    rw [runFrom_eq, hanswer]
    simp [Answer.inFormat, hdocument]
  remark := hremark

theorem lines_ne_remark {ls : List String} {line : String} (h : line ∈ ls)
    (hcolon : ':' ∈ line.toList) : Text.lines ls ≠ "No results.\n" := by
  intro heq
  have hmem : ':' ∈ (Text.lines ls).toList := by
    rw [Text.toList_lines, List.mem_flatMap]
    exact ⟨line, h, by simp [hcolon]⟩
  rw [heq] at hmem
  exact absurd hmem (by decide)

theorem lines_rowLines_eq_remark_iff {line : α → String} (h : ∀ a, ':' ∈ (line a).toList)
    (rows : List α) : Text.lines (Answer.rowLines line rows) = "No results.\n" ↔ rows = [] := by
  cases rows with
  | nil => exact iff_of_true rfl rfl
  | cons row rows =>
    exact iff_of_false (lines_ne_remark List.mem_cons_self (h row)) (List.cons_ne_nil row rows)

/-- A question that is answered by a list of rows. -/
theorem Prints.of_rows {g : Graph} {question : Question} {threshold : Option Nat}
    {outcome : Except Error (List α)} (make : List α → Answer) {line : α → String}
    {document : α → Json}
    (hanswer : ∀ (σ : Type) (chooser : Chooser σ) (format : Format) (c : Console σ),
      (answer g { question, threshold, format } chooser).run.run c = (make <$> outcome, c))
    (hlines : ∀ rows, (make rows).textLines = Answer.rowLines line rows)
    (hdocument : ∀ rows, (make rows).document? = some (.array (rows.map document)))
    (hwhole : ∀ a, (document a).Whole) (hcolon : ∀ a, ':' ∈ (line a).toList) :
    Prints g question threshold outcome (Answer.rowLines line)
      (fun rows => .array (rows.map document)) := by
  apply Prints.of_answer make hanswer hlines hdocument
  · intro rows
    apply Json.Whole.array
    intro j hj
    obtain ⟨a, -, rfl⟩ := List.mem_map.mp hj
    exact hwhole a
  · intro rows
    rw [lines_rowLines_eq_remark_iff hcolon]
    simp

/-- A question that is answered by one row, if there is one. -/
theorem Prints.of_row {g : Graph} {question : Question} {threshold : Option Nat}
    {outcome : Except Error (Option α)} (make : Option α → Answer) {line : α → String}
    {document : α → Json}
    (hanswer : ∀ (σ : Type) (chooser : Chooser σ) (format : Format) (c : Console σ),
      (answer g { question, threshold, format } chooser).run.run c = (make <$> outcome, c))
    (hlines : ∀ row, (make row).textLines = Answer.rowLines line row.toList)
    (hdocument : ∀ row, (make row).document? = some ((row.map document).getD .null))
    (hwhole : ∀ a, (document a).Whole) (hcolon : ∀ a, ':' ∈ (line a).toList)
    (hobject : ∀ a, ∃ fields, document a = .object fields) :
    Prints g question threshold outcome (fun row => Answer.rowLines line row.toList)
      (fun row => (row.map document).getD .null) := by
  apply Prints.of_answer make hanswer hlines hdocument
  · intro row
    cases row with
    | none => exact Json.Whole.null
    | some a => exact hwhole a
  · intro row
    rw [lines_rowLines_eq_remark_iff hcolon]
    cases row with
    | none => simp
    | some a =>
      obtain ⟨fields, hfields⟩ := hobject a
      simp [hfields]

/-- An object with a text and a second field. -/
theorem whole_pair {j : Json} (first second s : String) (h : j.Whole) :
    (Json.object [(first, .text s), (second, j)]).Whole := by
  apply Json.Whole.object
  intro field hf
  simp only [List.mem_cons, List.not_mem_nil, or_false] at hf
  rcases hf with rfl | rfl
  · exact .text s
  · exact h

/-- The questions that need no choice are answered alike in the two forms. -/
theorem formats_agree (g : Graph) (threshold : Option Nat) :
    Prints g .duration threshold (Catalog.totalLength g)
      (fun total => ["Total Playlist Duration: " ++ Duration.inWords total])
      (fun total => .object
        [("formatted", .text (Duration.clock total)), ("total_seconds", .integer total)]) ∧
    Prints g .totalSongs threshold (Catalog.songCount g)
      (fun count => ["Total Number of Songs: " ++ toString count])
      (fun count => .object [("total_songs", .integer count)]) ∧
    Prints g .length threshold (Catalog.songsByLength g)
      (Answer.rowLines fun s => s.title ++ ": " ++ Duration.clock s.seconds)
      (fun rows => .array (rows.map fun s =>
        .object [("title", .text s.title), ("seconds", .integer s.seconds)])) ∧
    Prints g .longest threshold (Catalog.longestSong g)
      (fun song => Answer.rowLines (fun s =>
        "Longest Song: " ++ s.title ++ ", Duration: " ++ Duration.clock s.seconds) song.toList)
      (fun song => (song.map fun s =>
        .object [("title", .text s.title), ("seconds", .integer s.seconds)]).getD .null) ∧
    Prints g .shortest threshold (Catalog.shortestSong g)
      (fun song => Answer.rowLines (fun s =>
        "Shortest Song: " ++ s.title ++ ", Duration: " ++ Duration.clock s.seconds) song.toList)
      (fun song => (song.map fun s =>
        .object [("title", .text s.title), ("seconds", .integer s.seconds)]).getD .null) ∧
    Prints g .longerThan threshold
      (match threshold with
        | none => .error (.input .missingThreshold)
        | some seconds => Catalog.songsLongerThan g seconds)
      (Answer.rowLines fun s => s.title ++ ": " ++ Duration.clock s.seconds)
      (fun rows => .array (rows.map fun s =>
        .object [("title", .text s.title), ("seconds", .integer s.seconds)])) ∧
    Prints g .album threshold (Catalog.songsByAlbum g)
      (Answer.rowLines fun r => r.album ++ ": " ++ r.title)
      (fun rows => .array (rows.map fun r =>
        .object [("album", .text r.album), ("title", .text r.title)])) ∧
    Prints g .artist threshold (Catalog.songsByArtist g)
      (Answer.rowLines fun r => r.artist ++ ": " ++ r.title)
      (fun rows => .array (rows.map fun r =>
        .object [("artist", .text r.artist), ("title", .text r.title)])) ∧
    Prints g .byAppearance threshold (Catalog.artistsByAppearance g)
      (Answer.rowLines fun r => r.artist ++ ": " ++ toString r.songs ++ " songs")
      (fun rows => .array (rows.map fun r =>
        .object [("artist", .text r.artist), ("songs", .integer r.songs)])) := by
  have hsong (s : Song) : (Answer.songJson s).Whole := whole_pair _ _ _ (.integer _)
  refine ⟨?_, ?_, ?_, ?_, ?_, ?_, ?_, ?_, ?_⟩
  · refine Prints.of_answer .totalLength (fun _ _ _ c => Session.run_lift_map _ _ c)
      (fun _ => rfl) (fun _ => rfl) (fun _ => whole_pair _ _ _ (.integer _)) ?_
    intro total
    refine iff_of_false (lines_ne_remark List.mem_cons_self ?_) (by simp)
    simp
  · refine Prints.of_answer .songCount (fun _ _ _ c => Session.run_lift_map _ _ c)
      (fun _ => rfl) (fun _ => rfl) ?_ ?_
    · intro count
      apply Json.Whole.object
      simp [Json.Whole.integer]
    · intro count
      refine iff_of_false (lines_ne_remark List.mem_cons_self ?_) (by simp)
      simp
  · exact Prints.of_rows .songs (fun _ _ _ c => Session.run_lift_map _ _ c) (fun _ => rfl)
      (fun _ => rfl) hsong (fun s => by simp)
  · exact Prints.of_row (.extreme .longest) (fun _ _ _ c => Session.run_lift_map _ _ c)
      (fun _ => rfl) (fun _ => rfl) hsong (fun s => by simp) (fun s => ⟨_, rfl⟩)
  · exact Prints.of_row (.extreme .shortest) (fun _ _ _ c => Session.run_lift_map _ _ c)
      (fun _ => rfl) (fun _ => rfl) hsong (fun s => by simp) (fun s => ⟨_, rfl⟩)
  · refine Prints.of_rows .songs ?_ (fun _ => rfl) (fun _ => rfl) hsong (fun s => by simp)
    intro σ chooser format c
    cases threshold with
    | none => rfl
    | some seconds => exact Session.run_lift_map _ _ c
  · exact Prints.of_rows .albums (fun _ _ _ c => Session.run_lift_map _ _ c) (fun _ => rfl)
      (fun _ => rfl) (fun _ => whole_pair _ _ _ (.text _)) (fun r => by simp)
  · exact Prints.of_rows .credits (fun _ _ _ c => Session.run_lift_map _ _ c) (fun _ => rfl)
      (fun _ => rfl) (fun _ => whole_pair _ _ _ (.text _)) (fun r => by simp)
  · exact Prints.of_rows .appearances (fun _ _ _ c => Session.run_lift_map _ _ c) (fun _ => rfl)
      (fun _ => rfl) (fun _ => whole_pair _ _ _ (.integer _)) (fun r => by simp)

end Request

end Songbook
