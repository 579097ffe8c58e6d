import Songbook.Proofs.Outcome
import Songbook.Service.Playlists

/-!
# Fetching all pages of a playlist

Pages are asked for one by one until one of them stops the reading: it is not answered, it does not
fit, it is empty or it announces no other. A playlist that is fetched has a record for every
document of every page up to that one, in their order. Where anything fails nothing is fetched.
-/

namespace Songbook

namespace Service

/-! ### Pages -/

/-- The documents on a page, without those that are null. -/
def Page.documents (p : Page) : List Json := p.items.filter fun j => !j.isNull

/-- An answer to the request for a page that holds nothing but items. -/
def Fits (reply : Option Page) : Prop :=
  ∃ p ∈ reply, ∀ j ∈ p.documents, (readItem j).isSome = true

/-- An answer behind which another page is asked for. -/
def GoesOn (reply : Option Page) : Prop :=
  Fits reply ∧ ∃ p ∈ reply, p.hasNext = true ∧ p.documents ≠ []

/-- The pages up to a position are asked for, and none behind it. -/
def StopsAt (pages : List (Option Page)) (k : Nat) : Prop :=
  (∀ j < k, GoesOn (replyAt pages j)) ∧ ¬ GoesOn (replyAt pages k)

/-- The documents on the pages up to a position. -/
def documentsUpTo (pages : List (Option Page)) (k : Nat) : List Json :=
  (List.range (k + 1)).flatMap fun j => ((replyAt pages j).map Page.documents).getD []

variable {pages : List (Option Page)} {k : Nat} {p : Page} {items : List Item}

theorem read_eq_some_iff :
    p.read = some items ↔ List.Forall₂ (fun j item => readItem j = some item) p.documents items :=
  mapM_eq_some_iff

theorem fits_some_iff : Fits (some p) ↔ ∃ items, p.read = some items := by
  have hread : (∃ items, p.read = some items) ↔
      ∀ j ∈ p.documents, (readItem j).isSome = true := exists_mapM_eq_some_iff
  rw [hread]
  simp [Fits]

theorem exists_read_of_fits {reply : Option Page} (h : Fits reply) :
    ∃ p items, reply = some p ∧ p.read = some items := by
  obtain ⟨p, hp, hfits⟩ := h
  obtain ⟨items, hread⟩ := fits_some_iff.mp ⟨p, rfl, hfits⟩
  exact ⟨p, items, hp, hread⟩

/-- The test by which the reading of pages goes on. -/
theorem goesOn_iff (h : p.read = some items) :
    GoesOn (some p) ↔ (p.hasNext && !items.isEmpty) = true := by
  have hfits : Fits (some p) := fits_some_iff.mpr ⟨items, h⟩
  have hlength := (read_eq_some_iff.mp h).length_eq
  have hempty : p.documents = [] ↔ items = [] := by
    rw [← List.length_eq_zero_iff, hlength, List.length_eq_zero_iff]
  simp [GoesOn, hfits, hempty]

theorem replyAt_succ (pages : List (Option Page)) (k : Nat) :
    replyAt pages (k + 1) = replyAt pages.tail k := by
  cases pages with
  | nil => rfl
  | cons page rest => rfl

theorem stopsAt_zero : StopsAt pages 0 ↔ ¬ GoesOn (replyAt pages 0) := by
  simp [StopsAt]

theorem stopsAt_succ :
    StopsAt pages (k + 1) ↔ GoesOn (replyAt pages 0) ∧ StopsAt pages.tail k := by
  simp only [StopsAt, Nat.forall_lt_succ_left, replyAt_succ, and_assoc]

theorem exists_stopsAt (pages : List (Option Page)) : ∃ k, StopsAt pages k := by
  -- behind the last page the reading stops
  induction pages with
  | nil =>
    refine ⟨0, stopsAt_zero.mpr ?_⟩
    rintro ⟨-, p, hp, hnext, -⟩
    cases hp
    cases hnext
  | cons reply rest ih =>
    by_cases hgoes : GoesOn reply
    · obtain ⟨k, hk⟩ := ih
      exact ⟨k + 1, stopsAt_succ.mpr ⟨hgoes, hk⟩⟩
    · exact ⟨0, stopsAt_zero.mpr hgoes⟩

theorem documentsUpTo_zero (h : replyAt pages 0 = some p) :
    documentsUpTo pages 0 = p.documents := by
  simp [documentsUpTo, h]

theorem documentsUpTo_succ (pages : List (Option Page)) (k : Nat) :
    documentsUpTo pages (k + 1) =
      ((replyAt pages 0).map Page.documents).getD [] ++ documentsUpTo pages.tail k := by
  rw [documentsUpTo, List.range_succ_eq_map, List.flatMap_cons, List.flatMap_map]
  simp only [Nat.succ_eq_add_one, replyAt_succ]
  rfl

/-! ### Requests -/

section Steps

variable {α β : Type} (asked : List Asked)

theorem run_ask_bind (request : Asked) (reply : Option α) (next : α → Conversation β) :
    (ask request reply >>= next).run.run asked =
      match reply with
      | some a => (next a).run.run (asked ++ [request])
      | none => (.error .service, asked ++ [request]) := by
  cases reply <;> rfl

theorem run_expected_bind (a : Option α) (next : α → Conversation β) :
    (liftM (expected a) >>= next).run.run asked =
      match a with
      | some a => (next a).run.run asked
      | none => (.error .service, asked) := by
  cases a <;> rfl

theorem run_map (f : α → β) (x : Conversation α) :
    (do return f (← x) : Conversation β).run.run asked =
      ((x.run.run asked).1.map f, (x.run.run asked).2) := by
  rw [ExceptT.run_bind, StateT.run_bind]
  cases x.run.run asked with
  | mk outcome asked' => cases outcome <;> rfl

end Steps

theorem collect_eq (i : Identifier) (position : Nat) (pages : List (Option Page)) :
    collect i position pages = do
      let page ← ask (.page i position) (replyAt pages 0)
      let items ← expected page.read
      if page.hasNext && !items.isEmpty then
        return items ++ (← collect i (position + 1) pages.tail)
      else return items := by
  cases pages with
  | nil => rfl
  | cons reply rest => rfl

variable {i : Identifier} {position : Nat} {asked : List Asked}

theorem run_collect_of_not_fits (hfits : ¬ Fits (replyAt pages 0)) :
    (collect i position pages).run.run asked =
      (.error .service, asked ++ [.page i position]) := by
  rw [collect_eq, run_ask_bind]
  cases hreply : replyAt pages 0 with
  | none => rfl
  | some p =>
    dsimp only
    rw [run_expected_bind]
    cases hread : p.read with
    | none => rfl
    | some items =>
      rw [hreply, fits_some_iff] at hfits
      exact absurd ⟨items, hread⟩ hfits

theorem run_collect_of_read (hreply : replyAt pages 0 = some p) (hread : p.read = some items) :
    (collect i position pages).run.run asked =
      (if p.hasNext && !items.isEmpty then
          return items ++ (← collect i (position + 1) pages.tail)
        else return items : Conversation (List Item)).run.run (asked ++ [.page i position]) := by
  rw [collect_eq, run_ask_bind, hreply]
  dsimp only
  rw [run_expected_bind, hread]

theorem run_collect_of_not_goesOn (hreply : replyAt pages 0 = some p)
    (hread : p.read = some items) (hstops : ¬ GoesOn (replyAt pages 0)) :
    (collect i position pages).run.run asked = (.ok items, asked ++ [.page i position]) := by
  rw [hreply, goesOn_iff hread] at hstops
  rw [run_collect_of_read hreply hread, if_neg hstops]
  rfl

theorem run_collect_of_goesOn (hreply : replyAt pages 0 = some p)
    (hread : p.read = some items) (hgoes : GoesOn (replyAt pages 0)) :
    (collect i position pages).run.run asked =
      let rest := (collect i (position + 1) pages.tail).run.run (asked ++ [.page i position])
      (rest.1.map (items ++ ·), rest.2) := by
  rw [hreply, goesOn_iff hread] at hgoes
  rw [run_collect_of_read hreply hread, if_pos hgoes, run_map]

/-- What comes of pages of which none behind a position is asked for: an item for every document
that is not null, in order, or a failure if the last page that is asked for does not fit. -/
def Collects (pages : List (Option Page)) (last : Nat) : Except Error (List Item) → Prop
  | .ok items => Fits (replyAt pages last) ∧
      List.Forall₂ (fun j item => readItem j = some item) (documentsUpTo pages last) items
  | .error e => ¬ Fits (replyAt pages last) ∧ e = .service

theorem Collects.cons {last : Nat} {outcome : Except Error (List Item)}
    (h : Collects pages.tail last outcome) (hreply : replyAt pages 0 = some p)
    (hread : p.read = some items) : Collects pages (last + 1) (outcome.map (items ++ ·)) := by
  cases outcome with
  | error e =>
    obtain ⟨hfits, he⟩ := h
    exact ⟨by rwa [replyAt_succ], he⟩
  | ok others =>
    obtain ⟨hfits, hothers⟩ := h
    refine ⟨by rwa [replyAt_succ], ?_⟩
    rw [documentsUpTo_succ, hreply]
    exact List.rel_append (read_eq_some_iff.mp hread) hothers

/-- The pages are asked for in order, each once, up to the one that stops the reading, and all
that were read are kept if that one fits. -/
theorem run_collect (i : Identifier) (position : Nat) (asked : List Asked)
    (h : StopsAt pages k) :
    ∃ outcome, Collects pages k outcome ∧ (collect i position pages).run.run asked =
      (outcome, asked ++ (List.range (k + 1)).map fun j => .page i (position + j)) := by
  induction k generalizing pages position asked with
  | zero =>
    by_cases hfits : Fits (replyAt pages 0)
    · obtain ⟨p, items, hreply, hread⟩ := exists_read_of_fits hfits
      refine ⟨.ok items, ⟨hfits, ?_⟩,
        run_collect_of_not_goesOn hreply hread (stopsAt_zero.mp h)⟩
      rw [documentsUpTo_zero hreply]
      exact read_eq_some_iff.mp hread
    · exact ⟨.error .service, ⟨hfits, rfl⟩, run_collect_of_not_fits hfits⟩
  | succ k ih =>
    obtain ⟨hgoes, hstops⟩ := stopsAt_succ.mp h
    obtain ⟨p, items, hreply, hread⟩ := exists_read_of_fits hgoes.1
    obtain ⟨outcome, hcollects, hrun⟩ :=
      ih (position + 1) (asked ++ [.page i position]) hstops
    have hpositions : ((List.range (k + 1 + 1)).map fun j => Asked.page i (position + j)) =
        .page i position :: (List.range (k + 1)).map fun j => .page i (position + 1 + j) := by
      rw [List.range_succ_eq_map, List.map_cons, List.map_map]
      simp only [Function.comp_def, Nat.add_zero, Nat.succ_eq_add_one, Nat.add_right_comm,
        Nat.add_assoc]
    refine ⟨outcome.map (items ++ ·), hcollects.cons hreply hread, ?_⟩
    rw [run_collect_of_goesOn hreply hread hgoes, hrun, hpositions]
    simp only [List.append_assoc, List.singleton_append]

/-- The requests for a playlist whose reading stops at a page. The pages are asked for once the
name is known. -/
def requests (r : Replies) (i : Identifier) (last : Nat) : List Asked :=
  .playlist i :: if r.playlistName.isSome then (List.range (last + 1)).map (.page i) else []

/-- All pages up to the one that stops the reading are answered, but it may itself be missing. -/
theorem countP_servesPage_requests {r : Replies} {last : Nat} (hlast : StopsAt r.pages last) :
    (requests r i last).countP (·.servesPage r) = if r.playlistName.isNone then 0
      else if (replyAt r.pages last).isSome then last + 1 else last := by
  have hbefore : ((List.range last).map (Asked.page i)).countP (·.servesPage r) = last := by
    have hserved : ∀ a ∈ (List.range last).map (Asked.page i), a.servesPage r = true := by
      intro a ha
      obtain ⟨j, hj, rfl⟩ := List.mem_map.mp ha
      obtain ⟨p, hp, -⟩ := (hlast.1 j (List.mem_range.mp hj)).1
      exact Option.isSome_iff_exists.mpr ⟨p, hp⟩
    rw [List.countP_eq_length.mpr hserved, List.length_map, List.length_range]
  cases hname : r.playlistName with
  | none => simp [requests, hname, Asked.servesPage]
  | some name =>
    rw [requests, hname, Option.isSome_some, if_pos rfl, List.countP_cons_of_neg Bool.false_ne_true,
      List.range_succ, List.map_append, List.countP_append, hbefore]
    cases hreply : (replyAt r.pages last).isSome <;> simp [Asked.servesPage, hreply]

/-! ### Fetching -/

variable {r : Replies} {playlist : String} {last : Nat}

theorem run_converse_of_rejected {fault : IdentifierFault}
    (h : Identifier.read "playlist" playlist = .error fault) :
    (converse r playlist).run.run [] = (.error (.identifier fault), []) := by
  unfold converse
  rw [h]
  rfl

/-- What comes of the replies to a request for a playlist whose reading stops at a page. -/
def Fetches (r : Replies) (last : Nat) : Except Error Playlist → Prop
  | .ok found => r.playlistName = some found.name ∧ Fits (replyAt r.pages last) ∧
      List.Forall₂ (fun document record => ∃ item, readItem document = some item ∧
        item.record = record) (documentsUpTo r.pages last) found.records
  | .error e => ¬ (r.playlistName.isSome ∧ Fits (replyAt r.pages last)) ∧ e = .service

theorem run_converse_of_accepted (h : Identifier.read "playlist" playlist = .ok i)
    (hlast : StopsAt r.pages last) :
    ∃ outcome, Fetches r last outcome ∧
      (converse r playlist).run.run [] = (outcome, requests r i last) := by
  have hstart : (converse r playlist).run.run [] =
      (do
        let name ← ask (.playlist i) r.playlistName
        let items ← collect i 0 r.pages
        return { name, records := items.map Item.record } :
          Conversation Playlist).run.run [] := by
    unfold converse
    rw [h]
    rfl
  rw [hstart, run_ask_bind, requests]
  cases hname : r.playlistName with
  | none => exact ⟨.error .service, ⟨by simp [hname], rfl⟩, rfl⟩
  | some name =>
    obtain ⟨outcome, hcollects, hrun⟩ := run_collect i 0 [.playlist i] hlast
    simp only [Nat.zero_add] at hrun
    refine ⟨outcome.map fun items => { name, records := items.map Item.record }, ?_, ?_⟩
    · cases outcome with
      | error e => exact ⟨fun hfits => hcollects.1 hfits.2, hcollects.2⟩
      | ok items =>
        refine ⟨hname, hcollects.1, List.forall₂_map_right_iff.mpr ?_⟩
        exact hcollects.2.imp fun document item hitem => ⟨item, hitem, rfl⟩
    · dsimp only
      rw [run_map, List.nil_append, hrun]
      rfl

/-- A playlist is fetched as its replies say. -/
theorem fetches_fetch (h : Identifier.read "playlist" playlist = .ok i)
    (hlast : StopsAt r.pages last) : Fetches r last (fetch r playlist) := by
  obtain ⟨outcome, hfetches, hrun⟩ := run_converse_of_accepted h hlast
  rwa [fetch, hrun]

/-- Fetching a playlist asks for its name and then for its pages, each once and in their order, up
to the first that stops the reading. The playlist that is found has the record of every document
that is not null on these pages, in their order. If any of these requests fails there is no
playlist, however many pages were answered; an identifier that is refused is asked for nothing. -/
theorem fetch_reads_all_pages (r : Replies) (playlist : String) :
    ((converse r playlist).run.run []).1 = fetch r playlist ∧
    (∀ fault, Identifier.read "playlist" playlist = .error fault →
      fetch r playlist = .error (.identifier fault) ∧
      ((converse r playlist).run.run []).2 = [] ∧ served r playlist = 0) ∧
    ∀ i, Identifier.read "playlist" playlist = .ok i →
      ∃ last, StopsAt r.pages last ∧
        ((converse r playlist).run.run []).2 = requests r i last ∧
        served r playlist = (if r.playlistName.isNone then 0
          else if (replyAt r.pages last).isSome then last + 1 else last) ∧
        ((∃ found, fetch r playlist = .ok found) ↔
          r.playlistName.isSome ∧ ∀ k ≤ last, Fits (replyAt r.pages k)) ∧
        (∀ found, fetch r playlist = .ok found →
          r.playlistName = some found.name ∧
          List.Forall₂ (fun document record => ∃ item, readItem document = some item ∧
            item.record = record) (documentsUpTo r.pages last) found.records) ∧
        (∀ e, fetch r playlist = .error e → e = .service) ∧
        ∀ k, (∀ j < k, GoesOn (replyAt r.pages j)) → ¬ Fits (replyAt r.pages k) →
          fetch r playlist = .error .service := by
  obtain ⟨last, hlast⟩ := exists_stopsAt r.pages
  refine ⟨rfl, ?_, ?_⟩
  · intro fault h
    have hrun := run_converse_of_rejected (r := r) h
    rw [fetch, served, hrun]
    exact ⟨rfl, rfl, rfl⟩
  · intro i h
    obtain ⟨outcome, -, hrun⟩ := run_converse_of_accepted h hlast
    have hfetches := fetches_fetch h hlast
    refine ⟨last, hlast, ?_, ?_, ⟨?_, ?_⟩, ?_, ?_, ?_⟩
    · rw [hrun]
    · rw [served, hrun, countP_servesPage_requests hlast]
    · rintro ⟨found, hfound⟩
      rw [hfound] at hfetches
      obtain ⟨hname, hfits, -⟩ := hfetches
      refine ⟨by rw [hname]; rfl, fun k hk => ?_⟩
      rcases Nat.lt_or_eq_of_le hk with hlt | rfl
      · exact (hlast.1 k hlt).1
      · exact hfits
    · rintro ⟨hname, hfits⟩
      cases hfetch : fetch r playlist with
      | ok found => exact ⟨found, rfl⟩
      | error e =>
        rw [hfetch] at hfetches
        exact absurd ⟨hname, hfits last (Nat.le_refl last)⟩ hfetches.1
    · intro found hfound
      rw [hfound] at hfetches
      exact ⟨hfetches.1, hfetches.2.2⟩
    · intro e he
      rw [he] at hfetches
      exact hfetches.2
    · intro k hbefore hfits
      -- the reading stops at the page that does not fit
      have hfailed := fetches_fetch h ⟨hbefore, fun hgoes => hfits hgoes.1⟩
      cases hfetch : fetch r playlist with
      | ok found =>
        rw [hfetch] at hfailed
        exact absurd hfailed.2.1 hfits
      | error e =>
        rw [hfetch] at hfailed
        rw [hfailed.2]

/-- Two pages are answered, and nothing of them is kept since the third one is lost. An identifier
with a blank is refused before any request. -/
theorem fetch_reads_all_pages_lostThird :
    let page : Page :=
      { items := [.null, .object [("is_local", .boolean false)]], hasNext := true }
    let r : Replies := { playlistName := some "Mix", pages := [some page, some page, none] }
    (Identifier.read "playlist" "a b" = .error .badCharacters ∧ served r "a b" = 0 ∧
      fetch r "a b" = .error (.identifier .badCharacters)) ∧
    ∃ i, Identifier.read "playlist" "abc" = .ok i ∧
      (∀ j < 2, GoesOn (replyAt r.pages j)) ∧ ¬ Fits (replyAt r.pages 2) ∧
      fetch r "abc" = .error .service := by
  intro page r
  have hrefused : Identifier.read "playlist" "a b" = .error .badCharacters := by decide
  have hread : page.read = some [.other] := rfl
  have hgoes : GoesOn (some page) := (goesOn_iff hread).mpr rfl
  have hbefore : ∀ j < 2, GoesOn (replyAt r.pages j) := by
    intro j hj
    obtain rfl | rfl : j = 0 ∨ j = 1 := by omega
    · exact hgoes
    · exact hgoes
  have hlost : ¬ Fits (replyAt r.pages 2) := by
    rintro ⟨p, hp, -⟩
    cases hp
  obtain ⟨hfetch, -, hserved⟩ := (fetch_reads_all_pages r "a b").2.1 .badCharacters hrefused
  refine ⟨⟨hrefused, hserved, hfetch⟩, ⟨"abc", by decide⟩, by decide, hbefore, hlost, ?_⟩
  obtain ⟨last, -, -, -, -, -, -, hfails⟩ :=
    (fetch_reads_all_pages r "abc").2.2 ⟨"abc", by decide⟩ (by decide)
  exact hfails 2 hbefore hlost

-- the second page is the last one, so it does not matter that the third one is missing
example :
    let document : Json := .object [("is_local", .boolean false)]
    let pages : List (Option Page) :=
      [some { items := [.null, document], hasNext := true },
        some { items := [document, document], hasNext := false }, none]
    fetch { playlistName := some "Mix", pages } "abc" =
      .ok { name := "Mix", records := List.replicate 3 Item.other.record } := by
  decide +kernel

end Service

end Songbook
