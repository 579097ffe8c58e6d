import Songbook.Environment
import Songbook.Proofs.Selection

/-!
# Answers line by line

A prompt takes one line off its input, be it a text or not. What it answers depends on that line
alone and what it shows on the listing alone, so that prompts which follow each other on one input
answer from its lines in turn.
-/

namespace Songbook.Prompt

open Environment (linesOf)

variable {artists : List String} {bytes line rest : List UInt8}

/-! ### The first line -/

/-- The first line of an input and what follows it. The line ends with the first newline, or else
with the input. -/
inductive StartsWith : List UInt8 → List UInt8 → List UInt8 → Prop
  | broken {front rest : List UInt8} (h : 10 ∉ front) :
      StartsWith (front ++ 10 :: rest) (front ++ [10]) rest
  | unbroken {front : List UInt8} (h : 10 ∉ front) : StartsWith front front []

theorem StartsWith.splitLine_eq (h : StartsWith bytes line rest) :
    splitLine bytes = (line, rest) := by
  cases h with
  | broken h => exact splitLine_append h rest
  | unbroken h => exact splitLine_eq_self h

theorem exists_startsWith (bytes : List UInt8) : ∃ line rest, StartsWith bytes line rest := by
  by_cases hbreak : 10 ∈ bytes
  · obtain ⟨front, rest, rfl, hfront⟩ := List.eq_append_cons_of_mem hbreak
    exact ⟨front ++ [10], rest, .broken hfront⟩
  · exact ⟨bytes, [], .unbroken hbreak⟩

/-! ### What a line answers -/

/-- What a line answers to a listing: what its text is resolved to, if it is a text. -/
def answerTo (artists : List String) (line : List UInt8) : Except Error (Option Nat) :=
  match textOfBytes line with
  | some text => .ok (Selection.resolve artists text)
  | none => .error (.file .notText)

theorem select_eq {p : Prompt} (h : StartsWith p.unread line rest) :
    select artists p =
      (answerTo artists line, { unread := rest, shown := p.shown ++ listing artists }) := by
  simp only [select, h.splitLine_eq, answerTo]
  cases textOfBytes line <;> rfl

theorem textOfBytes_toUTF8 (text : String) : textOfBytes text.toUTF8.toList = some text := by
  rw [← String.ofList_toList (s := text), Text.toList_toUTF8_ofList, textOfBytes,
    Text.fromUTF8?_bytes]

theorem toUTF8_of_textOfBytes {text : String} (h : textOfBytes line = some text) :
    text.toUTF8.toList = line := by
  unfold textOfBytes String.fromUTF8? at h
  split at h
  · cases h
    rw [Text.toList_eq_toList_data]
    rfl
  · cases h

theorem answerTo_toUTF8 (artists : List String) (text : String) :
    answerTo artists text.toUTF8.toList = .ok (Selection.resolve artists text) := by
  rw [answerTo, textOfBytes_toUTF8]

theorem answerTo_eq_error_iff {e : Error} : answerTo artists line = .error e ↔
    e = .file .notText ∧ ∀ text : String, text.toUTF8.toList ≠ line := by
  constructor
  · intro h
    cases htext : textOfBytes line with
    | some text =>
      rw [← toUTF8_of_textOfBytes htext, answerTo_toUTF8] at h
      cases h
    | none =>
      rw [answerTo, htext] at h
      refine ⟨(Except.error.inj h).symm, fun text hline => ?_⟩
      rw [← hline, textOfBytes_toUTF8] at htext
      cases htext
  · rintro ⟨rfl, hnone⟩
    cases htext : textOfBytes line with
    | some text => exact absurd (toUTF8_of_textOfBytes htext) (hnone text)
    | none => rw [answerTo, htext]

/-! ### Several lines -/

theorem linesOf_append (h : 10 ∉ line) (rest : List UInt8) :
    linesOf (line ++ 10 :: rest) = (line ++ [10]) :: linesOf rest := by
  induction line with
  | nil =>
    rw [List.nil_append, linesOf]
    cases linesOf rest <;> rfl
  | cons b line ih =>
    obtain ⟨hb, hline⟩ : 10 ≠ b ∧ 10 ∉ line := by simpa using h
    rw [List.cons_append, linesOf, ih hline]
    exact if_neg (Ne.symm hb)

theorem linesOf_eq_singleton (h : 10 ∉ line) (hne : line ≠ []) : linesOf line = [line] := by
  induction line with
  | nil => exact absurd rfl hne
  | cons b line ih =>
    obtain ⟨hb, hline⟩ : 10 ≠ b ∧ 10 ∉ line := by simpa using h
    cases line with
    | nil => rfl
    | cons c line =>
      rw [linesOf, ih hline (List.cons_ne_nil _ _)]
      exact if_neg (Ne.symm hb)

theorem flatten_linesOf (bytes : List UInt8) : (linesOf bytes).flatten = bytes := by
  induction bytes with
  | nil => rfl
  | cons b bytes ih =>
    rw [linesOf]
    cases hlines : linesOf bytes with
    | nil =>
      rw [hlines] at ih
      rw [← ih]
      rfl
    | cons first more =>
      rw [hlines] at ih
      dsimp only
      split <;> rw [← ih] <;> rfl

/-- The line at a position of an input. Behind the last line there are empty ones. -/
def lineAt (bytes : List UInt8) (i : Nat) : List UInt8 := (linesOf bytes).getD i []

theorem StartsWith.lineAt_zero (h : StartsWith bytes line rest) : lineAt bytes 0 = line := by
  cases h with
  | broken h => rw [lineAt, linesOf_append h, List.getD_cons_zero]
  | unbroken h =>
    by_cases hne : bytes = []
    · subst hne
      rfl
    · rw [lineAt, linesOf_eq_singleton h hne, List.getD_cons_zero]

theorem StartsWith.lineAt_succ (h : StartsWith bytes line rest) (i : Nat) :
    lineAt bytes (i + 1) = lineAt rest i := by
  cases h with
  | broken h => rw [lineAt, linesOf_append h, List.getD_cons_succ, lineAt]
  | unbroken h =>
    by_cases hne : bytes = []
    · subst hne
      rfl
    · rw [lineAt, linesOf_eq_singleton h hne, List.getD_cons_succ]
      rfl

theorem StartsWith.flatten_drop (h : StartsWith bytes line rest) (n : Nat) :
    ((linesOf bytes).drop (n + 1)).flatten = ((linesOf rest).drop n).flatten := by
  cases h with
  | broken h => rw [linesOf_append h, List.drop_succ_cons]
  | unbroken h =>
    by_cases hne : bytes = []
    · subst hne
      simp [linesOf]
    · rw [linesOf_eq_singleton h hne, List.drop_succ_cons]
      simp [linesOf]

/-- Let an artist be selected from each of several listings in turn. -/
def selectEach (listings : List (List String)) :
    StateM Prompt (List (Except Error (Option Nat))) :=
  listings.mapM fun artists => select artists

theorem run_selectEach (listings : List (List String)) (p : Prompt) :
    (selectEach listings).run p =
      (listings.mapIdx fun i artists => answerTo artists (lineAt p.unread i),
        { unread := ((linesOf p.unread).drop listings.length).flatten
          shown := listings.foldl (fun shown artists => shown ++ listing artists) p.shown }) := by
  induction listings generalizing p with
  | nil =>
    rw [List.length_nil, List.drop_zero, flatten_linesOf]
    rfl
  | cons artists listings ih =>
    obtain ⟨line, rest, h⟩ := exists_startsWith p.unread
    have hrun : (selectEach (artists :: listings)).run p =
        ((select artists p).1 :: ((selectEach listings).run (select artists p).2).1,
          ((selectEach listings).run (select artists p).2).2) := by
      rw [selectEach, List.mapM_cons]
      rfl
    rw [hrun, select_eq h, ih, List.mapIdx_cons, List.length_cons, List.foldl_cons,
      h.flatten_drop, h.lineAt_zero]
    simp only [h.lineAt_succ]

/-- A prompt takes exactly one line off its input: the bytes up to and including the first newline,
or all of them. It fails just where these bytes are no text and answers otherwise what the text is
resolved to, so that inputs with the same first line have the same answer. What it shows is the
numbered listing, whatever the input is. Prompts in turn answer from the lines in turn. -/
theorem selections_read_lines :
    (∀ bytes, ∃ line rest, StartsWith bytes line rest) ∧
    (∀ artists p line rest, StartsWith p.unread line rest → select artists p =
      (answerTo artists line, { unread := rest, shown := p.shown ++ listing artists })) ∧
    (∀ artists line e, answerTo artists line = .error e ↔
      e = .file .notText ∧ ∀ text : String, text.toUTF8.toList ≠ line) ∧
    (∀ artists (text : String),
      answerTo artists text.toUTF8.toList = .ok (Selection.resolve artists text)) ∧
    (∀ artists p q line rest others, StartsWith p.unread line rest →
      StartsWith q.unread line others → (select artists p).1 = (select artists q).1 ∧
        (p.shown = q.shown → (select artists p).2.shown = (select artists q).2.shown)) ∧
    (∀ artists, listing artists = Text.lines ("Artists:" ::
      artists.mapIdx fun i artist => toString (i + 1) ++ ". " ++ artist) ++
        "Enter the artist's name or number from the list above: ") ∧
    (∀ bytes line rest, StartsWith bytes line rest →
      lineAt bytes 0 = line ∧ ∀ i, lineAt bytes (i + 1) = lineAt rest i) ∧
    ∀ listings p, (selectEach listings).run p =
      (listings.mapIdx fun i artists => answerTo artists (lineAt p.unread i),
        { unread := ((linesOf p.unread).drop listings.length).flatten
          shown := listings.foldl (fun shown artists => shown ++ listing artists) p.shown }) := by
  refine ⟨exists_startsWith, fun artists p line rest => select_eq,
    fun artists line e => answerTo_eq_error_iff, answerTo_toUTF8, ?_, ?_,
    fun bytes line rest h => ⟨h.lineAt_zero, h.lineAt_succ⟩, run_selectEach⟩
  · intro artists p q line rest others hp hq
    rw [select_eq hp, select_eq hq]
    refine ⟨rfl, fun hshown => ?_⟩
    rw [hshown]
  · intro artists
    rw [listing, numbered_eq, Text.lines]
    rfl

/-- The first line is no text, the second one ends with a carriage return and a newline, and the
third one has no end. -/
theorem selections_read_lines_unreadableFirst :
    let p : Prompt := { unread := [50, 255, 10, 50, 13, 10, 49] }
    let listings := [["Prince", "Queen"], ["Prince", "Queen"]]
    StartsWith p.unread [50, 255, 10] [50, 13, 10, 49] ∧
      (select ["Prince", "Queen"] p).2.unread = [50, 13, 10, 49] ∧
      ((selectEach listings).run p).1 = [.error (.file .notText), .ok (some 1)] ∧
      ((selectEach listings).run p).2.unread = [49] := by
  intro p listings
  have hfirst : StartsWith p.unread [50, 255, 10] [50, 13, 10, 49] :=
    @StartsWith.broken [50, 255] [50, 13, 10, 49] (by decide)
  obtain ⟨-, hselect, -, hanswers, -, -, -, hrun⟩ := selections_read_lines
  have hbytes : "2\r\n".toUTF8.toList = [50, 13, 10] := Text.toList_eq_toList_data _
  have htext : answerTo ["Prince", "Queen"] [50, 13, 10] = .ok (some 1) := by
    rw [← hbytes, hanswers]
    decide
  have hnone : answerTo ["Prince", "Queen"] [50, 255, 10] = .error (.file .notText) := by
    decide
  refine ⟨hfirst, ?_, ?_, ?_⟩
  · rw [hselect _ _ _ _ hfirst]
  · rw [hrun]
    exact congrArg₂ (fun first second => [first, second]) hnone htext
  · rw [hrun]
    rfl

end Songbook.Prompt
