import Songbook.Proofs.Catalog.Listings
import Songbook.Proofs.Catalog.Totals

/-!
# When a question fails

A column of titles or names shows whatever is stated as a name, and that may be a node. This is
the only thing that a reading of an answer can stumble over: every column is there, and every
number is a whole number that is not negative. So a question fails if and only if one of its rows
shows a node, and then for this reason.
-/

namespace Songbook

open Rdf Sparql Catalog

namespace Catalog

/-- The columns of titles and names. -/
def textColumns : List String := ["songTitle", "albumTitle", "artistName"]

/-- The row has a node where a title or a name belongs. -/
def ShowsNode (row : Row) : Prop :=
  ∃ column ∈ textColumns, ∃ n, row.get? (.named column) = some (.node n)

/-- The failure to show a node as a title or a name. -/
def IsNodeFault (e : Error) : Prop :=
  ∃ column ∈ textColumns, ∃ n : Node,
    e = .result (.notLiteral column (String.ofList (Term.node n).write))

/-- Reading the rows fails if and only if one of them shows a node, and then because of a node. -/
def FailsByNode {α : Type} (rows : List Row) : Except Error α → Prop
  | .ok _ => ∀ row ∈ rows, ¬ ShowsNode row
  | .error e => IsNodeFault e ∧ ∃ row ∈ rows, ShowsNode row

/-- The row has a name of something in each of some columns, and in no other column of titles
and names. -/
structure HasNames (g : Graph) (columns : List String) (row : Row) : Prop where
  name : ∀ column ∈ columns, ∃ about, ∃ t ∈ g.objects about Vocabulary.name,
    row.get? (.named column) = some t
  only : ∀ column ∈ textColumns, column ∉ columns → row.get? (.named column) = none

variable {α β : Type} {g : Graph} {row : Row} {rows : List Row} {columns : List String}

theorem HasNames.showsNode_iff (h : HasNames g columns row) (hcolumns : columns ⊆ textColumns) :
    ShowsNode row ↔ ∃ column ∈ columns, ∃ n, row.get? (.named column) = some (.node n) := by
  constructor
  · rintro ⟨column, hcolumn, n, hn⟩
    by_cases hmem : column ∈ columns
    · exact ⟨column, hmem, n, hn⟩
    · rw [h.only column hcolumn hmem] at hn
      contradiction
  · rintro ⟨column, hcolumn, n, hn⟩
    exact ⟨column, hcolumns hcolumn, n, hn⟩

/-- A node that is shown is stated as a name. -/
theorem HasNames.exists_mem (h : HasNames g columns row) (hcolumns : columns ⊆ textColumns)
    (hrow : ShowsNode row) : ∃ s n, ⟨s, Vocabulary.name, .node n⟩ ∈ g.triples := by
  obtain ⟨column, hcolumn, n, hn⟩ := (h.showsNode_iff hcolumns).mp hrow
  obtain ⟨about, t, ht, hget⟩ := h.name column hcolumn
  obtain rfl := Option.some.inj (hget.symm.trans hn)
  obtain ⟨s, -, hmem⟩ := Graph.mem_objects.mp ht
  exact ⟨s, n, hmem⟩

theorem get?_cons_self (v : Variable) (t : Term) (row : Row) :
    Row.get? ((v, t) :: row) v = some t := by
  simp [Row.get?]

theorem get?_cons_of_ne {v w : Variable} (hne : v ≠ w) (t : Term) (row : Row) :
    Row.get? ((w, t) :: row) v = row.get? v := by
  have hbeq : (v == w) = false := beq_eq_false_iff_ne.mpr hne
  simp [Row.get?, List.lookup_cons, hbeq]

/-- A row of names, with other columns behind them. -/
theorem hasNames_append (named : List (String × Term)) (others : Row)
    (hnamed : ∀ p ∈ named, ∃ about, p.2 ∈ g.objects about Vocabulary.name)
    (hothers : ∀ p ∈ others, ∀ column ∈ textColumns, p.1 ≠ .named column) :
    HasNames g (named.map Prod.fst) (named.map (fun p => (.named p.1, p.2)) ++ others) := by
  induction named with
  | nil =>
    refine ⟨fun column hcolumn => absurd hcolumn List.not_mem_nil, fun column hcolumn _ => ?_⟩
    rw [Row.get?, List.map_nil, List.nil_append, List.lookup_eq_none_iff]
    intro p hp
    exact bne_iff_ne.mpr (hothers p hp column hcolumn).symm
  | cons p named ih =>
    have hrest := ih fun q hq => hnamed q (List.mem_cons_of_mem p hq)
    have hget (column : String) (hne : column ≠ p.1) :
        Row.get? ((p :: named).map (fun p => (.named p.1, p.2)) ++ others) (.named column) =
          Row.get? (named.map (fun p => (.named p.1, p.2)) ++ others) (.named column) :=
      get?_cons_of_ne (fun heq => hne (Variable.named.inj heq)) p.2 _
    constructor
    · intro column hcolumn
      by_cases heq : column = p.1
      · obtain ⟨about, ht⟩ := hnamed p List.mem_cons_self
        subst heq
        exact ⟨about, p.2, ht, get?_cons_self _ p.2 _⟩
      · rw [hget column heq]
        exact hrest.name column ((List.mem_cons.mp hcolumn).resolve_left heq)
    · intro column hcolumn hother
      rw [List.map_cons, List.mem_cons, not_or] at hother
      rw [hget column hother.1]
      exact hrest.only column hcolumn hother.2

/-! ### Reading rows -/

theorem FailsByNode.map {x : Except Error α} (h : FailsByNode rows x) (f : α → β) :
    FailsByNode rows (f <$> x) := by
  cases x <;> exact h

theorem failsByNode_mapM {read : Row → Except Error α}
    (h : ∀ row ∈ rows, FailsByNode [row] (read row)) : FailsByNode rows (rows.mapM read) := by
  induction rows with
  | nil =>
    intro row hrow
    cases hrow
  | cons row rows ih =>
    have hrow := h row List.mem_cons_self
    have hrows := ih fun other hother => h other (List.mem_cons_of_mem row hother)
    rw [List.mapM_cons]
    cases hread : read row with
    | error e =>
      rw [hread] at hrow
      obtain ⟨hfault, other, hother, hshows⟩ := hrow
      exact ⟨hfault, other, List.mem_cons.mpr (Or.inl (List.mem_singleton.mp hother)), hshows⟩
    | ok a =>
      rw [hread] at hrow
      cases hmore : rows.mapM read with
      | error e =>
        rw [hmore] at hrows
        obtain ⟨hfault, other, hother, hshows⟩ := hrows
        exact ⟨hfault, other, List.mem_cons_of_mem row hother, hshows⟩
      | ok as =>
        rw [hmore] at hrows
        intro other hother
        rcases List.mem_cons.mp hother with rfl | hother
        · exact hrow other List.mem_cons_self
        · exact hrows other hother

/-- Reading a row fails if and only if it has a node in one of some columns. -/
def FailsAt {α : Type} (row : Row) (columns : List String) : Except Error α → Prop
  | .ok _ => ∀ column ∈ columns, ∀ n, row.get? (.named column) ≠ some (.node n)
  | .error e => IsNodeFault e ∧ ∃ column ∈ columns, ∃ n, row.get? (.named column) = some (.node n)

theorem failsAt_ok (a : α) : FailsAt row [] (.ok a) := by
  intro column hcolumn
  cases hcolumn

/-- A column is read as a text, and then the others. -/
theorem FailsAt.textIn {column : String} {t : Term} {next : String → Except Error α}
    (hcolumn : column ∈ textColumns) (hget : row.get? (.named column) = some t)
    (h : ∀ s, FailsAt row columns (next s)) :
    FailsAt row (column :: columns) (textIn row column >>= next) := by
  cases t with
  | node n =>
    have htext : Catalog.textIn row column =
        .error (.result (.notLiteral column (String.ofList (Term.node n).write))) := by
      simp [Catalog.textIn, hget]
    rw [htext]
    exact ⟨⟨column, hcolumn, n, rfl⟩, column, List.mem_cons_self, n, hget⟩
  | literal l =>
    rw [textIn_eq hget]
    change FailsAt row (column :: columns) (next l.text)
    have hnext := h l.text
    cases hvalue : next l.text with
    | ok a =>
      rw [hvalue] at hnext
      intro other hother n hn
      rcases List.mem_cons.mp hother with rfl | hother
      · rw [hget] at hn
        cases hn
      · exact hnext other hother n hn
    | error e =>
      rw [hvalue] at hnext
      obtain ⟨hfault, other, hother, n, hn⟩ := hnext
      exact ⟨hfault, other, List.mem_cons_of_mem column hother, n, hn⟩

theorem FailsAt.failsByNode {x : Except Error α} (h : FailsAt row columns x)
    (hnames : HasNames g columns row) (hcolumns : columns ⊆ textColumns) :
    FailsByNode [row] x := by
  have hshows := hnames.showsNode_iff hcolumns
  cases x with
  | ok a =>
    intro other hother
    obtain rfl := List.mem_singleton.mp hother
    rw [hshows]
    rintro ⟨column, hcolumn, n, hn⟩
    exact h column hcolumn n hn
  | error e =>
    obtain ⟨hfault, hnode⟩ := h
    exact ⟨hfault, row, List.mem_cons_self, hshows.mpr hnode⟩

/-! ### Answers -/

/-- The rows of a query decide whether a reading of them fails: it does if and only if one of them
shows a node, and only a node that is stated as a name can be shown. -/
def DecidedByNodes {α : Type} (g : Graph) (text : String) (x : Except Error α) : Prop :=
  ∃ rows, g.select text = .ok rows ∧ FailsByNode rows x ∧
    ∀ row ∈ rows, ShowsNode row → ∃ s n, ⟨s, Vocabulary.name, .node n⟩ ∈ g.triples

theorem DecidedByNodes.map {text : String} {x : Except Error α} (h : DecidedByNodes g text x)
    (f : α → β) : DecidedByNodes g text (f <$> x) := by
  obtain ⟨rows, hselect, hfails, hshown⟩ := h
  exact ⟨rows, hselect, hfails.map f, hshown⟩

/-- Where all names are texts, no node can be shown. -/
theorem DecidedByNodes.exists_ok {text : String} {x : Except Error α}
    (h : DecidedByNodes g text x) (hplain : g.NamesArePlain) : ∃ a, x = .ok a := by
  obtain ⟨rows, -, hfails, hshown⟩ := h
  cases x with
  | ok a => exact ⟨a, rfl⟩
  | error e =>
    obtain ⟨-, row, hrow, hshows⟩ := hfails
    obtain ⟨s, n, hname⟩ := hshown row hrow hshows
    exact absurd hname (hplain.not_mem s n)

/-- A question without columns of titles and names does not fail. -/
theorem decidedByNodes_ok {text : String} {a : α} (hselect : g.select text = .ok rows)
    (hnames : ∀ row ∈ rows, HasNames g [] row) : DecidedByNodes g text (.ok a) := by
  have hnone : ∀ row ∈ rows, ¬ ShowsNode row := by
    intro row hrow hshows
    obtain ⟨column, hcolumn, -⟩ := ((hnames row hrow).showsNode_iff (List.nil_subset _)).mp hshows
    cases hcolumn
  exact ⟨rows, hselect, hnone, fun row hrow hshows => absurd hshows (hnone row hrow)⟩

theorem exists_of_mem_run {q : Query} (hreduced : q.repetition ≠ .reduced)
    (hrow : row ∈ q.run g) :
    ∃ found ∈ (q.collected g).map q.withColumns,
      row = found.restrict (q.columns.map Column.name) := by
  have hprojected : row ∈ q.projected (q.sorted ((q.collected g).map q.withColumns)) := by
    unfold Query.run Query.limited at hrow
    split at hrow
    · exact List.mem_of_mem_drop (List.mem_of_mem_take hrow)
    · exact List.mem_of_mem_drop hrow
  have hmapped : row ∈ (q.sorted ((q.collected g).map q.withColumns)).map
      (Row.restrict (q.columns.map Column.name)) := by
    unfold Query.projected Repetition.apply at hprojected
    split at hprojected
    · exact hprojected
    · exact List.mem_eraseDups.mp hprojected
    · exact absurd (by assumption) hreduced
  obtain ⟨found, hfound, rfl⟩ := List.mem_map.mp hmapped
  refine ⟨found, ?_, rfl⟩
  unfold Query.sorted at hfound
  split at hfound
  · exact hfound
  · exact (sortRows_perm _ _).mem_iff.mp hfound

/-- The rows of a query are read one by one, each of them with its names. -/
theorem decidedByNodes_mapM (columns : List String) {text : String} {q : Query}
    {read : Row → Except Error α} (htext : readQuery? text = some (.rows q))
    (hreduced : q.repetition ≠ .reduced) (hcolumns : columns ⊆ textColumns)
    (h : ∀ found ∈ (q.collected g).map q.withColumns,
      HasNames g columns (found.restrict (q.columns.map Column.name)) ∧
        FailsAt (found.restrict (q.columns.map Column.name)) columns
          (read (found.restrict (q.columns.map Column.name)))) :
    DecidedByNodes g text (g.select text >>= fun rows => rows.mapM read) := by
  have hselect : g.select text = .ok (q.run g) := select_eq_run htext g
  have hrun : ∀ row ∈ q.run g, HasNames g columns row ∧ FailsAt row columns (read row) := by
    intro row hrow
    obtain ⟨found, hfound, rfl⟩ := exists_of_mem_run hreduced hrow
    exact h found hfound
  refine ⟨q.run g, hselect, ?_, ?_⟩
  · rw [hselect]
    exact failsByNode_mapM fun row hrow => (hrun row hrow).2.failsByNode (hrun row hrow).1 hcolumns
  · intro row hrow hshows
    exact (hrun row hrow).1.exists_mem hcolumns hshows

/-! ### Questions -/

/-- A question for songs with a title and a length. -/
theorem decidedByNodes_songs {text : String} {conditions : List Expression}
    {orderBy : List (Direction × Expression)} {limit : Option Nat} (hne : orderBy ≠ [])
    (htext : readQuery? text = some (.rows (songQuery conditions orderBy limit))) :
    DecidedByNodes g text (songs g text) := by
  refine decidedByNodes_mapM ["songTitle"] htext (by simp [songQuery]) (by simp [textColumns]) ?_
  rw [(listsRows_songQuery limit hne).map_collected, matching_songQuery]
  intro found hfound
  obtain ⟨r, -, t, ht, n, hn, rfl⟩ := exists_of_mem_songRows (List.mem_of_mem_filter hfound)
  constructor
  · exact hasNames_append [("songTitle", t)] [(duration, .literal (.integer n))]
      (by simpa using ⟨r, ht⟩) (by simp [duration, textColumns])
  · refine FailsAt.textIn (by simp [textColumns]) rfl fun s => ?_
    rw [numberIn_eq hn rfl]
    exact failsAt_ok _

/-- A question for the first of such songs. -/
theorem decidedByNodes_firstSong {text : String} {conditions : List Expression}
    {orderBy : List (Direction × Expression)} {limit : Option Nat} (hne : orderBy ≠ [])
    (htext : readQuery? text = some (.rows (songQuery conditions orderBy limit))) :
    DecidedByNodes g text (do return (← songs g text).head?) := by
  have hfirst : (do return (← songs g text).head?) = List.head? <$> songs g text := by
    cases songs g text <;> rfl
  rw [hfirst]
  exact (decidedByNodes_songs hne htext).map _

/-- A question for two columns of names. -/
theorem decidedByNodes_names {text : String} {q : Query} (first second : String)
    (make : String → String → α) (htext : readQuery? text = some (.rows q)) (hlists : ListsRows q)
    (hkept : q.repetition = .kept) (hcolumns : [first, second] ⊆ textColumns)
    (hne : second ≠ first)
    (h : ∀ found ∈ q.matching g, ∃ about t about' u, t ∈ g.objects about Vocabulary.name ∧
      u ∈ g.objects about' Vocabulary.name ∧
      found.restrict (q.columns.map Column.name) = [(.named first, t), (.named second, u)]) :
    DecidedByNodes g text (g.select text >>= fun rows => rows.mapM fun row => do
      let s ← textIn row first
      let t ← textIn row second
      return make s t) := by
  refine decidedByNodes_mapM [first, second] htext (by simp [hkept]) hcolumns ?_
  rw [hlists.map_collected]
  intro found hfound
  obtain ⟨about, t, about', u, ht, hu, hrow⟩ := h found hfound
  rw [hrow]
  constructor
  · exact hasNames_append [(first, t), (second, u)] [] (by simpa using ⟨⟨about, ht⟩, about', hu⟩)
      (by simp)
  · have hsecond : Row.get? [(.named first, t), (.named second, u)] (.named second) = some u :=
      (get?_cons_of_ne (fun heq => hne (Variable.named.inj heq)) t _).trans (get?_cons_self _ u [])
    refine FailsAt.textIn (hcolumns (by simp)) (get?_cons_self _ t _) fun s => ?_
    exact FailsAt.textIn (hcolumns (by simp)) hsecond fun s' => failsAt_ok _

/-- A question for one column of names. -/
theorem decidedByNodes_name {text : String} {q : Query} (column : String)
    (htext : readQuery? text = some (.rows q)) (hlists : ListsRows q)
    (hreduced : q.repetition ≠ .reduced) (hcolumn : column ∈ textColumns)
    (h : ∀ found ∈ q.matching g, ∃ about, ∃ t ∈ g.objects about Vocabulary.name,
      found.restrict (q.columns.map Column.name) = [(.named column, t)]) :
    DecidedByNodes g text (g.select text >>= fun rows => rows.mapM (textIn · column)) := by
  refine decidedByNodes_mapM [column] htext hreduced (by simpa using hcolumn) ?_
  rw [hlists.map_collected]
  intro found hfound
  obtain ⟨about, t, ht, hrow⟩ := h found hfound
  rw [hrow]
  constructor
  · exact hasNames_append [(column, t)] [] (by simpa using ⟨about, ht⟩) (by simp)
  · have hread : textIn [(.named column, t)] column =
        (textIn [(.named column, t)] column >>= Except.ok) := by
      cases textIn [(.named column, t)] column <;> rfl
    rw [hread]
    exact FailsAt.textIn hcolumn (get?_cons_self _ t []) fun s => failsAt_ok s

theorem decidedByNodes_songsByAlbum (g : Graph) :
    DecidedByNodes g songsByAlbumText (songsByAlbum g) := by
  refine decidedByNodes_names "albumTitle" "songTitle" (fun album title => AlbumSong.mk album title)
    textsSpell.songsByAlbum listsRows_songsByAlbum rfl (by simp [textColumns]) (by decide) ?_
  rw [matching_songsByAlbum]
  intro found hfound
  simp only [List.mem_flatMap, List.mem_singleton] at hfound
  obtain ⟨r, -, t, ht, a, -, n, hn, rfl⟩ := hfound
  exact ⟨a, n, r, t, hn, ht, rfl⟩

theorem decidedByNodes_songsByArtist (g : Graph) :
    DecidedByNodes g songsByArtistText (songsByArtist g) := by
  refine decidedByNodes_names "artistName" "songTitle"
    (fun artist title => ArtistSong.mk artist title) textsSpell.songsByArtist
    listsRows_songsByArtist rfl (by simp [textColumns]) (by decide) fun found hfound => ?_
  obtain ⟨r, -, t, ht, a, -, n, hn, rfl⟩ := exists_of_mem_songsByArtist hfound
  exact ⟨a, n, r, t, hn, ht, rfl⟩

theorem decidedByNodes_allArtists (g : Graph) :
    DecidedByNodes g allArtistsText (allArtists g) := by
  refine decidedByNodes_name "artistName" textsSpell.allArtists listsRows_allArtists
    (by simp [allArtistsQuery]) (by simp [textColumns]) ?_
  rw [matching_allArtists, rowsOf_credits]
  intro found hfound
  simp only [List.mem_flatMap, List.mem_singleton] at hfound
  obtain ⟨r, -, a, -, n, hn, rfl⟩ := hfound
  exact ⟨a, n, hn, rfl⟩

theorem decidedByNodes_songsForArtist (g : Graph) (name : String) :
    DecidedByNodes g (songsForArtistText name) (songsForArtist g name) := by
  refine decidedByNodes_name "songTitle" (readQuery?_songsForArtistText name)
    listsRows_songsForArtist (by simp [songsForArtistQuery]) (by simp [textColumns]) ?_
  rw [matching_songsForArtist]
  intro found hfound
  simp only [List.mem_flatMap, List.mem_singleton] at hfound
  obtain ⟨r, -, t, ht, a, -, n, -, rfl⟩ := hfound
  exact ⟨r, t, ht, rfl⟩

/-- The number of songs is a number as long as the recordings can be counted in a word. -/
theorem decidedByNodes_artistsByAppearance (hbound : g.recordings.length < 2 ^ 63) :
    DecidedByNodes g artistsByAppearanceText (artistsByAppearance g) := by
  refine decidedByNodes_mapM ["artistName"] textsSpell.artistsByAppearance
    (by simp [artistsByAppearanceQuery]) (by simp [textColumns]) ?_
  rw [map_collected_attributions]
  intro found hfound
  obtain ⟨⟨a, n⟩, hmem, rfl⟩ := List.mem_map.mp hfound
  obtain ⟨-, hn⟩ := Graph.mem_attributions.mp (List.mem_eraseDups.mp hmem)
  have hcount := Nat.lt_of_le_of_lt (g.count_attributions_le (a, n)) hbound
  generalize g.attributions.count (a, n) = k at hcount
  have htoInt : (Int64.ofNat k).toInt = k := Int64.toInt_ofNat_of_lt hcount
  constructor
  · exact hasNames_append [("artistName", n)] [(.named "numSongs", countTerm k)]
      (by simpa using ⟨a, hn⟩) (by simp [textColumns])
  · refine FailsAt.textIn (by simp [textColumns]) rfl fun s => ?_
    rw [numberIn_eq (n := Int64.ofNat k) (by omega) rfl]
    exact failsAt_ok _

theorem decidedByNodes_totalLength (g : Graph) :
    DecidedByNodes g totalLengthText (totalLength g) := by
  have hselect := select_eq_run textsSpell.totalLength g
  rw [run_computed (a := .sum (.unknown duration)) rfl rfl rfl rfl rfl rfl rfl] at hselect
  rw [totalLength_eq]
  refine decidedByNodes_ok hselect fun row hrow => ?_
  obtain rfl := List.mem_singleton.mp hrow
  refine hasNames_append [] _ (by simp) ?_
  cases Aggregate.value? (totalLengthQuery.matching g) (.sum (.unknown duration)) <;>
    simp [textColumns]

theorem decidedByNodes_songCount (hbound : g.recordings.length < 2 ^ 63) :
    DecidedByNodes g songCountText (songCount g) := by
  have hselect := select_eq_run textsSpell.songCount g
  rw [run_computed (a := .count true (.unknown track)) rfl rfl rfl rfl rfl rfl rfl] at hselect
  rw [songCount_eq_ok hbound]
  refine decidedByNodes_ok hselect fun row hrow => ?_
  obtain rfl := List.mem_singleton.mp hrow
  exact hasNames_append [] [(.named "totalSongs", _)] (by simp) (by simp [textColumns])

end Catalog

end Songbook
