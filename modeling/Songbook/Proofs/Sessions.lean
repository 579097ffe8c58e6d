import Songbook.Session

/-!
# Running sessions

A session finds its answer without printing anything, and then prints the answer and nothing else.
So whatever fails, it fails before anything is printed: `Request.printed_of_runFrom_error`.
-/

namespace Songbook

variable {σ α β : Type}

/-! ### Steps of a session -/

namespace Session

theorem run_bind (x : Session σ α) (f : α → Session σ β) (c : Console σ) :
    (x >>= f).run.run c =
      match x.run.run c with
      | (.ok a, c') => (f a).run.run c'
      | (.error e, c') => (.error e, c') := by
  rw [ExceptT.run_bind, StateT.run_bind]
  cases x.run.run c with
  | mk outcome c' => cases outcome <;> rfl

/-- What is computed without the console leaves the console alone. -/
theorem run_lift_map (x : Except Error α) (f : α → β) (c : Console σ) :
    (do return f (← x) : Session σ β).run.run c = (f <$> x, c) := by
  cases x <;> rfl

/-- The artists are listed first, then one of them is chosen, and then the songs of that artist
are listed. -/
theorem run_songsOfChosen (g : Graph) (chooser : Chooser σ) (c : Console σ) :
    (songsOfChosen g chooser).run.run c =
      match Catalog.allArtists g with
      | .error e => (.error e, c)
      | .ok [] => (.ok .noArtists, c)
      | .ok names =>
        match (chooser names c.chooser).1 with
        | .error e => (.error e, { c with chooser := (chooser names c.chooser).2 })
        | .ok choice =>
          match choice.bind (names[·]?) with
          | none => (.ok .noMatch, { c with chooser := (chooser names c.chooser).2 })
          | some artist => (Answer.songsBy artist <$> Catalog.songsForArtist g artist,
              { c with chooser := (chooser names c.chooser).2 }) := by
  unfold songsOfChosen
  -- from here on it does not matter what the queries are
  generalize Catalog.allArtists g = artists, Catalog.songsForArtist g = songsOf
  cases artists with
  | error e => rfl
  | ok names =>
    cases names with
    | nil => rfl
    | cons name names =>
      have hchoose : (choose chooser (name :: names)).run.run c =
          ((chooser (name :: names) c.chooser).1,
            { c with chooser := (chooser (name :: names) c.chooser).2 }) := rfl
      change (choose chooser (name :: names) >>= _ : Session σ Answer).run.run c = _
      rw [run_bind, hchoose]
      dsimp only
      cases (chooser (name :: names) c.chooser).1 with
      | error e => rfl
      | ok choice =>
        dsimp only
        cases choice.bind ((name :: names)[·]?) with
        | none => rfl
        | some artist => exact run_lift_map _ _ _

end Session

namespace Request

/-- A session is its answer, and then what is printed of it. -/
theorem runFrom_eq (g : Graph) (r : Request) (chooser : Chooser σ) (start : σ) :
    r.runFrom g chooser start =
      match (r.answer g chooser).run.run { chooser := start } with
      | (.ok a, c) => (.ok (), { c with printed := c.printed ++ a.inFormat r.format })
      | (.error e, c) => (.error e, c) := by
  rw [runFrom, run, Session.run_bind]
  cases (r.answer g chooser).run.run { chooser := start } with
  | mk outcome c => cases outcome <;> rfl

/-- Printing does not fail. -/
theorem runFrom_error_iff {g : Graph} {r : Request} {chooser : Chooser σ} {start : σ} {e : Error} :
    (r.runFrom g chooser start).1 = .error e ↔
      ((r.answer g chooser).run.run { chooser := start }).1 = .error e := by
  rw [runFrom_eq]
  cases (r.answer g chooser).run.run { chooser := start } with
  | mk outcome c =>
    cases outcome with
    | error e' => exact ⟨fun h => by cases h; rfl, fun h => by cases h; rfl⟩
    | ok a => exact iff_of_false (fun h => by cases h) (fun h => by cases h)

/-- An answer is found without printing. -/
theorem printed_answer (g : Graph) (r : Request) (chooser : Chooser σ) (c : Console σ) :
    ((r.answer g chooser).run.run c).2.printed = c.printed := by
  unfold answer
  split
  case h_6 =>
    split
    · rfl
    · rw [Session.run_lift_map]
  case h_10 =>
    rw [Session.run_songsOfChosen]
    split
    · rfl
    · rfl
    · split
      · rfl
      · split <;> rfl
  all_goals rw [Session.run_lift_map]

/-- The artists among whom one is to be chosen, if it comes to a choice. -/
def offered? (g : Graph) (r : Request) : Option (List String) :=
  match r.question, Catalog.allArtists g with
  | .byArtist, .ok (name :: names) => some (name :: names)
  | _, _ => none

theorem offered?_eq_some_iff {g : Graph} {r : Request} {artists : List String} :
    r.offered? g = some artists ↔
      r.question = .byArtist ∧ Catalog.allArtists g = .ok artists ∧ artists ≠ [] := by
  unfold offered?
  split
  · rename_i name names hquestion hnames
    rw [hquestion, hnames, Option.some.injEq, Except.ok.injEq]
    constructor
    · rintro rfl
      exact ⟨rfl, rfl, List.cons_ne_nil _ _⟩
    · exact fun h => h.2.1
  · rename_i hother
    refine iff_of_false (by simp) ?_
    rintro ⟨hquestion, hnames, hne⟩
    obtain ⟨name, names, rfl⟩ := List.exists_cons_of_ne_nil hne
    exact hother name names hquestion hnames

/-- The chooser is asked once if there are artists to choose from, and otherwise never. -/
theorem chooser_answer (g : Graph) (r : Request) (chooser : Chooser σ) (c : Console σ) :
    ((r.answer g chooser).run.run c).2.chooser =
      match r.offered? g with
      | some artists => (chooser artists c.chooser).2
      | none => c.chooser := by
  obtain ⟨question, threshold, format⟩ := r
  cases question with
  | byArtist =>
    simp only [answer, offered?, Session.run_songsOfChosen]
    cases Catalog.allArtists g with
    | error e => rfl
    | ok names =>
      cases names with
      | nil => rfl
      | cons name names =>
        dsimp only
        split
        · rfl
        · split <;> rfl
  | longerThan =>
    cases threshold with
    | none => rfl
    | some seconds => simp only [answer, offered?, Session.run_lift_map]
  | _ => simp only [answer, offered?, Session.run_lift_map]

/-- Printing an answer does not ask the chooser again. -/
theorem chooser_runFrom (g : Graph) (r : Request) (chooser : Chooser σ) (start : σ) :
    (r.runFrom g chooser start).2.chooser =
      match r.offered? g with
      | some artists => (chooser artists start).2
      | none => start := by
  have hanswer := chooser_answer g r chooser { chooser := start }
  rw [runFrom_eq]
  split <;> rename_i heq <;> rw [heq] at hanswer <;> exact hanswer

/-- Nothing is printed by a session that fails. -/
theorem printed_of_runFrom_error {g : Graph} {r : Request} {chooser : Chooser σ} {start : σ}
    {e : Error} (h : (r.runFrom g chooser start).1 = .error e) :
    (r.runFrom g chooser start).2.printed = "" := by
  have hprinted := printed_answer g r chooser { chooser := start }
  rw [runFrom_eq] at h ⊢
  split at h
  · cases h
  · rename_i e' c heq
    rw [heq] at hprinted
    exact hprinted

end Request

end Songbook
