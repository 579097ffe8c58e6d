import Songbook.Proofs.Catalog.Columns
import Songbook.Proofs.Catalog.Rows
import Songbook.Proofs.Catalog.Parameters
import Songbook.Proofs.Sparql.Conditions
import Songbook.Proofs.Sparql.Sorting

/-!
# Songs by length

Four questions list recordings with a title and a length. Where titles are plain texts, the rows
of these questions are the songs of the graph, `Graph.songs`, whose lengths are whole numbers
that are not negative. Rows are then compared like songs, so each question answers with the songs
that fulfil its condition in its order, and the order of the triples does not matter.
-/

namespace Songbook

open Rdf Sparql Catalog Std

/-! ### Songs of a graph -/

/-- The whole seconds of a length that counts. -/
def lengthOf? : Term → Option Nat
  | .literal (.integer n) => if 0 ≤ n.toInt then some n.toInt.toNat else none
  | _ => none

/-- The order of songs from the longest to the shortest, and by title. -/
def Song.longestFirst : Song → Song → Ordering :=
  compareLex (fun a b => compare b.seconds a.seconds) (compareOn Song.title)

instance : TransCmp Song.longestFirst :=
  haveI : TransCmp fun a b : Song => compare b.seconds a.seconds :=
    @TransCmp.opposite _ (compareOn Song.seconds) _
  inferInstanceAs (TransCmp (compareLex _ _))

instance : LawfulEqCmp Song.longestFirst where
  eq_of_compare {a b} h := by
    obtain ⟨hseconds, htitle⟩ := compareLex_eq_eq.mp h
    cases a
    cases b
    simp_all [compareOn]

namespace Graph

/-- The lengths of a thing that count. -/
def lengths (g : Graph) (about : Term) : List Nat :=
  (g.objects about Vocabulary.duration).filterMap lengthOf?

/-- Every recording with each of its titles and each of its lengths. -/
def songs (g : Graph) : List Song :=
  g.recordings.flatMap fun r => (g.names r).flatMap fun t => (g.lengths r).map (Song.mk t)

/-- Every recording with each of its titles, of whatever kind, and each of its lengths. -/
def titledSongs (g : Graph) : List Song :=
  g.recordings.flatMap fun r => (g.texts r).flatMap fun t => (g.lengths r).map (Song.mk t)

/-- Recordings have no other names than literals. -/
def RecordingsHaveLiteralNames (g : Graph) : Prop :=
  ∀ n o, ⟨n, Vocabulary.rdfType, .node (.iri Vocabulary.musicRecording)⟩ ∈ g.triples →
    ⟨n, Vocabulary.name, o⟩ ∈ g.triples → ∃ l, o = .literal l

theorem RecordingsHaveLiteralNames.exists_eq {g : Graph} (h : g.RecordingsHaveLiteralNames)
    {r t : Term} (hr : r ∈ g.recordings) (ht : t ∈ g.objects r Vocabulary.name) :
    ∃ l, t = .literal l := by
  obtain ⟨n, rfl, hn⟩ := mem_subjects.mp hr
  obtain ⟨m, hm, ht⟩ := mem_objects.mp ht
  cases hm
  exact h n t hn ht

/-- Recordings have no other names than plain texts. -/
def RecordingsHavePlainNames (g : Graph) : Prop :=
  ∀ n o, ⟨n, Vocabulary.rdfType, .node (.iri Vocabulary.musicRecording)⟩ ∈ g.triples →
    ⟨n, Vocabulary.name, o⟩ ∈ g.triples → ∃ s, o = .literal (.plain s)

theorem RecordingsHavePlainNames.exists_eq {g : Graph} (h : g.RecordingsHavePlainNames)
    {r t : Term} (hr : r ∈ g.recordings) (ht : t ∈ g.objects r Vocabulary.name) :
    ∃ s, t = .literal (.plain s) := by
  obtain ⟨n, rfl, hn⟩ := mem_subjects.mp hr
  obtain ⟨m, hm, ht⟩ := mem_objects.mp ht
  cases hm
  exact h n t hn ht

theorem RecordingsHavePlainNames.literal {g : Graph} (h : g.RecordingsHavePlainNames) :
    g.RecordingsHaveLiteralNames := by
  intro n o hn ho
  obtain ⟨s, hs⟩ := h n o hn ho
  exact ⟨.plain s, hs⟩

theorem RecordingsHavePlainNames.titledSongs_eq {g : Graph} (h : g.RecordingsHavePlainNames) :
    g.titledSongs = g.songs := by
  refine List.flatMap_congr fun r hr => ?_
  have htexts : g.texts r = g.names r := by
    refine List.filterMap_congr fun t ht => ?_
    obtain ⟨s, rfl⟩ := h.exists_eq hr ht
    rfl
  rw [htexts]

end Graph

namespace Catalog

/-! ### Rows of songs -/

/-- The song that a row tells of. -/
def songOf (row : Row) : Song where
  title := ((row.get? songTitle).bind plainText?).getD ""
  seconds := ((row.get? duration).bind lengthOf?).getD 0

/-- A row with a plain title and a length that counts. -/
def TellsSong (row : Row) : Prop :=
  ∃ (s : String) (n : Int64), 0 ≤ n.toInt ∧ row.get? songTitle = some (.literal (.plain s)) ∧
    row.get? duration = some (.literal (.integer n))

/-- The song that a row tells of, with a title of whatever kind. -/
def titledSongOf (row : Row) : Song where
  title := ((row.get? songTitle).bind literalText?).getD ""
  seconds := ((row.get? duration).bind lengthOf?).getD 0

/-- A row with a literal as its title and a length that counts. -/
def TellsTitledSong (row : Row) : Prop :=
  ∃ (l : Literal) (n : Int64), 0 ≤ n.toInt ∧ row.get? songTitle = some (.literal l) ∧
    row.get? duration = some (.literal (.integer n))

theorem TellsSong.titled {row : Row} (h : TellsSong row) : TellsTitledSong row := by
  obtain ⟨s, n, hn, hs, hduration⟩ := h
  exact ⟨.plain s, n, hn, hs, hduration⟩

theorem TellsSong.titledSongOf_eq {row : Row} (h : TellsSong row) :
    titledSongOf row = songOf row := by
  obtain ⟨s, n, hn, hs, hduration⟩ := h
  simp [titledSongOf, songOf, hs, literalText?, plainText?, Literal.text]

theorem lengthOf?_integer {n : Int64} (h : 0 ≤ n.toInt) :
    lengthOf? (.literal (.integer n)) = some n.toInt.toNat := if_pos h

theorem keeps_countsAsLength {row : Row} {d : Term} (h : row.get? duration = some d) :
    countsAsLength.keeps row = (lengthOf? d).isSome := by
  have hduration : (Expression.unknown duration).value? row = some d := h
  rw [countsAsLength, Expression.keeps_both]
  cases d with
  | node n =>
    have hdatatype : (Expression.datatype (.unknown duration)).value? row = none := by
      simp [Expression.value?, h]
    rw [Expression.keeps_compare_of_none _ hdatatype]
    rfl
  | literal l =>
    have hdatatype : (Expression.datatype (.unknown duration)).value? row =
        some (.node (.iri l.datatype)) := by
      simp [Expression.value?, h]
    rw [Expression.keeps_compare _ hdatatype rfl, Expression.keeps_compare _ hduration rfl]
    -- for anything but a whole number one of the two comparisons is not known to be true
    by_cases hl : ∃ n, l = .integer n
    · obtain ⟨n, rfl⟩ := hl
      have hdatatypes : Comparison.equal.test (.node (.iri (Literal.integer n).datatype))
          (.node (.iri Vocabulary.xsdInteger)) = some true := by
        simp [Comparison.test, Term.equal?, Literal.datatype]
      have hzero : (0 : Int64).toInt = 0 := rfl
      rw [hdatatypes, Comparison.test, Literal.compare?_integer, hzero]
      unfold lengthOf?
      by_cases hn : 0 ≤ n.toInt
      · have hcompare := Int.compare_ne_lt.mpr hn
        simp [hn, hcompare]
      · have hcompare := Int.compare_eq_lt.mpr (Int.not_le.mp hn)
        simp [hn, hcompare]
    · have hlength : lengthOf? (.literal l) = none := by
        unfold lengthOf?
        split
        · rename_i n heq
          cases heq
          exact absurd ⟨n, rfl⟩ hl
        · rfl
      rw [hlength]
      rcases Literal.datatype_ne_or_compare?_eq_none (fun n hn => hl ⟨n, hn⟩) 0 with h | h
      · simp [Comparison.test, Term.equal?, h]
      · simp [Comparison.test, h]

/-- A length is above a threshold, also if the threshold is beyond every length. -/
theorem keeps_isLongerThan_integer {row : Row} {n : Int64} (hn : 0 ≤ n.toInt)
    (hduration : row.get? duration = some (.literal (.integer n))) (threshold : Nat) :
    (isLongerThan threshold).keeps row = decide (threshold < n.toInt.toNat) := by
  have hvalue : (Expression.unknown duration).value? row = some (.literal (.integer n)) := hduration
  rw [isLongerThan, Expression.keeps_compare _ hvalue rfl]
  have hlt := n.toInt_lt
  generalize hk : n.toInt.toNat = k
  by_cases hm : threshold < 2 ^ 63
  · rw [Literal.ofLexical_toString hm, Comparison.test, Literal.compare?_integer,
      Int64.toInt_ofNat_of_lt hm]
    by_cases hk' : threshold < k
    · have hcompare := Int.compare_eq_gt.mpr (show (threshold : Int) < n.toInt by omega)
      simp [hcompare, hk']
    · have hcompare := Int.compare_ne_gt.mpr (show n.toInt ≤ threshold by omega)
      simp [hcompare, hk']
  · -- the threshold is a spelling without a value, and no length is compared with it
    have hk' : ¬ threshold < k := by omega
    rw [Literal.ofLexical_toString_of_le (Nat.le_of_not_lt hm), Comparison.test,
      Literal.compare?_typed]
    simp [hk']

theorem keeps_isLongerThan {row : Row} (h : TellsSong row) (threshold : Nat) :
    (isLongerThan threshold).keeps row = decide (threshold < (songOf row).seconds) := by
  obtain ⟨s, n, hn, _, hduration⟩ := h
  have hseconds : (songOf row).seconds = n.toInt.toNat := by
    simp [songOf, hduration, lengthOf?_integer hn]
  rw [hseconds, keeps_isLongerThan_integer hn hduration]

theorem filter_eq_flatMap {α : Type} (test : α → Bool) (as : List α) :
    as.filter test = as.flatMap fun a => [a].filter test := by
  rw [← List.filter_flatMap, List.flatMap_singleton']

/-- The rows of songs whose lengths count. -/
def songRows (g : Graph) : List Row :=
  (rowsOf g [isRecording, hasTitle, hasLength]).filter countsAsLength.keeps

/-- A row of a song has a name of a recording and a length that counts. -/
theorem exists_of_mem_songRows {g : Graph} {row : Row} (hrow : row ∈ songRows g) :
    ∃ r ∈ g.recordings, ∃ t ∈ g.objects r Vocabulary.name, ∃ n : Int64, 0 ≤ n.toInt ∧
      row = [(track, r), (songTitle, t), (duration, .literal (.integer n))] := by
  simp only [songRows, rowsOf_songs, List.mem_filter, List.mem_flatMap, List.mem_singleton] at hrow
  obtain ⟨⟨r, hr, t, ht, d, hd, rfl⟩, hkeeps⟩ := hrow
  rw [keeps_countsAsLength (d := d) rfl] at hkeeps
  unfold lengthOf? at hkeeps
  split at hkeeps
  · rename_i n
    split at hkeeps
    · rename_i hn
      exact ⟨r, hr, t, ht, n, hn, rfl⟩
    · cases hkeeps
  · cases hkeeps

theorem tellsSong_of_mem_songRows {g : Graph} (h : g.RecordingsHavePlainNames) {row : Row}
    (hrow : row ∈ songRows g) : TellsSong row := by
  obtain ⟨r, hr, t, ht, n, hn, rfl⟩ := exists_of_mem_songRows hrow
  obtain ⟨s, rfl⟩ := h.exists_eq hr ht
  exact ⟨s, n, hn, rfl, rfl⟩

theorem tellsTitledSong_of_mem_songRows {g : Graph} (h : g.RecordingsHaveLiteralNames) {row : Row}
    (hrow : row ∈ songRows g) : TellsTitledSong row := by
  obtain ⟨r, hr, t, ht, n, hn, rfl⟩ := exists_of_mem_songRows hrow
  obtain ⟨l, rfl⟩ := h.exists_eq hr ht
  exact ⟨l, n, hn, rfl, rfl⟩

/-- The row has a literal as its title. -/
def isTitled (row : Row) : Bool := ((row.get? songTitle).bind literalText?).isSome

theorem TellsTitledSong.isTitled {row : Row} (h : TellsTitledSong row) : isTitled row = true := by
  obtain ⟨l, n, hn, hl, hduration⟩ := h
  simp [Catalog.isTitled, hl, literalText?]

/-- The rows of songs whose titles are literals tell of every recording with each of these titles
and each of its lengths. -/
theorem map_titledSongOf_filter_songRows (g : Graph) :
    ((songRows g).filter isTitled).map titledSongOf = g.titledSongs := by
  simp only [songRows, rowsOf_songs, List.filter_flatMap, List.map_flatMap, Graph.titledSongs,
    Graph.texts, Graph.lengths, List.filterMap_eq_flatMap_toList, List.flatMap_assoc]
  refine List.flatMap_congr fun r _ => List.flatMap_congr fun t _ => ?_
  cases t with
  | node n =>
    have hnone : ∀ d, (List.filter countsAsLength.keeps
        [[(track, r), (songTitle, .node n), (duration, d)]]).filter isTitled = [] := by
      intro d
      refine List.filter_eq_nil_iff.mpr fun row hrow => ?_
      obtain rfl := List.mem_singleton.mp (List.mem_of_mem_filter hrow)
      exact Bool.false_ne_true
    simp only [hnone, List.map_nil, literalText?, Option.toList_none, List.flatMap_nil,
      List.flatMap_eq_nil_iff, implies_true]
  | literal l =>
    simp only [literalText?, Option.toList_some, List.flatMap_cons, List.flatMap_nil,
      List.append_nil]
    refine List.flatMap_congr fun d _ => ?_
    have hkeeps : countsAsLength.keeps [(track, r), (songTitle, .literal l), (duration, d)] =
        (lengthOf? d).isSome := keeps_countsAsLength rfl
    have htitled : isTitled [(track, r), (songTitle, .literal l), (duration, d)] = true := rfl
    cases hd : lengthOf? d with
    | none => simp [hkeeps, hd]
    | some n =>
      have htitle : Row.get? [(track, r), (songTitle, .literal l), (duration, d)] songTitle =
          some (.literal l) := rfl
      have hduration : Row.get? [(track, r), (songTitle, .literal l), (duration, d)] duration =
          some d := rfl
      simp [hkeeps, htitled, hd, titledSongOf, htitle, hduration, literalText?]

/-- Where titles are literals, all rows of songs tell of recordings with their titles and
lengths. -/
theorem map_titledSongOf_songRows {g : Graph} (h : g.RecordingsHaveLiteralNames) :
    (songRows g).map titledSongOf = g.titledSongs := by
  rw [← map_titledSongOf_filter_songRows, List.filter_eq_self.mpr fun row hrow =>
    (tellsTitledSong_of_mem_songRows h hrow).isTitled]

theorem map_songOf_songRows {g : Graph} (h : g.RecordingsHavePlainNames) :
    (songRows g).map songOf = g.songs := by
  rw [← h.titledSongs_eq, ← map_titledSongOf_songRows h.literal]
  exact List.map_congr_left fun row hrow =>
    (tellsSong_of_mem_songRows h hrow).titledSongOf_eq.symm

/-! ### Answers -/

variable {a b row : Row}

/-- The title and the length in a row that tells a song are those of the song. -/
theorem TellsSong.exists_songOf_eq (h : TellsSong row) :
    ∃ title n, 0 ≤ n.toInt ∧ row.get? songTitle = some (.literal (.plain title)) ∧
      row.get? duration = some (.literal (.integer n)) ∧
      songOf row = ⟨title, n.toInt.toNat⟩ := by
  obtain ⟨title, n, hn, htitle, hduration⟩ := h
  refine ⟨title, n, hn, htitle, hduration, ?_⟩
  simp only [songOf, htitle, hduration, Option.bind_some, plainText?, lengthOf?_integer hn,
    Option.getD_some]

theorem orderRows_longestFirst (ha : TellsSong a) (hb : TellsSong b) :
    orderRows longestFirst a b = Song.longestFirst (songOf a) (songOf b) := by
  obtain ⟨s, m, hm, hs, hms, ha⟩ := ha.exists_songOf_eq
  obtain ⟨t, n, hn, ht, hnt, hb⟩ := hb.exists_songOf_eq
  simp only [orderRows, longestFirst, Direction.orderBy, Expression.value?, hs, ht, hms, hnt,
    orderMissing_integer hm hn, orderMissing_plain, Nat.compare_swap, Ordering.then_eq, ha, hb,
    Song.longestFirst, compareLex, compareOn]

theorem orderRows_shortestFirst (ha : TellsSong a) (hb : TellsSong b) :
    orderRows shortestFirst a b = Song.longestFirst (songOf b) (songOf a) := by
  obtain ⟨s, m, hm, hs, hms, ha⟩ := ha.exists_songOf_eq
  obtain ⟨t, n, hn, ht, hnt, hb⟩ := hb.exists_songOf_eq
  have hswap : (compare s t).swap = compare t s := OrientedOrd.eq_swap.symm
  simp only [orderRows, shortestFirst, Direction.orderBy, Expression.value?, hs, ht, hms, hnt,
    orderMissing_integer hm hn, orderMissing_plain, hswap, Ordering.then_eq, ha, hb,
    Song.longestFirst, compareLex, compareOn]

theorem readSong_restrict_titled (h : TellsTitledSong row) :
    readSong (row.restrict [songTitle, duration]) = .ok (titledSongOf row) := by
  obtain ⟨l, n, hn, hl, hduration⟩ := h
  have hrow : row.restrict [songTitle, duration] =
      [(songTitle, .literal l), (duration, .literal (.integer n))] := by
    simp [Row.restrict, hl, hduration]
  have hsong : titledSongOf row = ⟨l.text, n.toInt.toNat⟩ := by
    simp only [titledSongOf, hl, hduration, Option.bind_some, literalText?, lengthOf?_integer hn,
      Option.getD_some]
  rw [hrow, hsong]
  exact bind_eq_ok_iff.mpr ⟨_, textIn_eq rfl, bind_eq_ok_iff.mpr ⟨_, numberIn_eq hn rfl, rfl⟩⟩

theorem readSong_restrict (h : TellsSong row) :
    readSong (row.restrict [songTitle, duration]) = .ok (songOf row) := by
  rw [readSong_restrict_titled h.titled, h.titledSongOf_eq]

theorem matching_songQuery (conditions : List Expression)
    (orderBy : List (Direction × Expression)) (limit : Option Nat) (g : Graph) :
    (songQuery conditions orderBy limit).matching g =
      (songRows g).filter fun row => conditions.all (·.keeps row) := by
  simp only [Query.matching, songQuery, Query.asked, List.isEmpty_nil, if_true, songRows,
    List.filter_filter, List.all_cons, Bool.and_comm]

theorem listsRows_songQuery {conditions : List Expression}
    {orderBy : List (Direction × Expression)} (limit : Option Nat) (hne : orderBy ≠ []) :
    ListsRows (songQuery conditions orderBy limit) :=
  ⟨rfl, rfl, hne, by simp [songQuery], rfl⟩

/-- A question for songs is answered where the rows that fulfil its conditions have literals as
titles, with the songs of these rows. -/
theorem exists_songs_eq_ok_of_tells {g : Graph} {text : String} {conditions : List Expression}
    {orderBy : List (Direction × Expression)} {limit : Option Nat}
    (hread : readQuery? text = some (.rows (songQuery conditions orderBy limit)))
    (hne : orderBy ≠ [])
    (h : ∀ row ∈ (songRows g).filter fun row => conditions.all (·.keeps row),
      TellsTitledSong row) :
    ∃ rows, rows.Perm ((songRows g).filter fun row => conditions.all (·.keeps row)) ∧
      songs g text = .ok ((limit.elim id List.take rows).map titledSongOf) := by
  rw [← matching_songQuery conditions orderBy limit] at h ⊢
  exact exists_rows_of_select hread (listsRows_songQuery limit hne) rfl readSong titledSongOf
    fun row hrow => readSong_restrict_titled (h row hrow)

/-- Where a question for songs without a limit is answered, the rows that fulfil its conditions
have literals as titles, and the answer is the songs of these rows. -/
theorem perm_of_songs {g : Graph} {text : String} {conditions : List Expression}
    {orderBy : List (Direction × Expression)} {answers : List Song}
    (hread : readQuery? text = some (.rows (songQuery conditions orderBy none)))
    (hne : orderBy ≠ []) (h : songs g text = .ok answers) :
    (∀ row ∈ (songRows g).filter fun row => conditions.all (·.keeps row), TellsTitledSong row) ∧
      answers.Perm
        (((songRows g).filter fun row => conditions.all (·.keeps row)).map titledSongOf) := by
  have htells : ∀ row ∈ (songRows g).filter fun row => conditions.all (·.keeps row),
      TellsTitledSong row := by
    intro row hrow
    obtain ⟨r, -, t, -, n, hn, rfl⟩ := exists_of_mem_songRows (List.mem_of_mem_filter hrow)
    rw [← matching_songQuery conditions orderBy none] at hrow
    obtain ⟨song, -, hsong⟩ := exists_mem_of_select hread (listsRows_songQuery none hne) rfl rfl h
      hrow
    obtain ⟨title, htitle, -⟩ := bind_eq_ok_iff.mp hsong
    obtain ⟨⟨l, hl⟩, -⟩ := (textIn_restrict_eq_ok_iff (by simp [songQuery, songTitle])).mp htitle
    exact ⟨l, n, hn, hl, rfl⟩
  obtain ⟨rows, hrows, hsongs⟩ := exists_songs_eq_ok_of_tells hread hne htells
  obtain rfl := Except.ok.inj (h.symm.trans hsongs)
  exact ⟨htells, hrows.map titledSongOf⟩

/-- A question for songs is answered with the songs of the graph that pass a test, in the order
of the question, up to its limit. -/
theorem songs_eq {g : Graph} (h : g.RecordingsHavePlainNames) {text : String}
    {conditions : List Expression} {orderBy : List (Direction × Expression)} {limit : Option Nat}
    (hread : readQuery? text = some (.rows (songQuery conditions orderBy limit)))
    (hne : orderBy ≠ []) (cmp : Song → Song → Ordering) [TransCmp cmp] [LawfulEqCmp cmp]
    (horder : ∀ a b, TellsSong a → TellsSong b →
      orderRows orderBy a b = cmp (songOf a) (songOf b))
    (test : Song → Bool)
    (htest : ∀ row, TellsSong row → conditions.all (·.keeps row) = test (songOf row)) :
    songs g text = .ok (limit.elim id List.take (sortedBy cmp (g.songs.filter test))) := by
  let q := songQuery conditions orderBy limit
  have hmatching : q.matching g = (songRows g).filter fun row => conditions.all (·.keeps row) :=
    matching_songQuery conditions orderBy limit g
  have hrows : ∀ row ∈ q.matching g, TellsSong row := fun row hrow => by
    rw [hmatching] at hrow
    exact tellsSong_of_mem_songRows h (List.mem_filter.mp hrow).1
  have hmap : (q.matching g).map songOf = g.songs.filter test := by
    rw [hmatching, ← map_songOf_songRows h, List.filter_map]
    congr 1
    exact List.filter_congr fun row hrow => htest row (tellsSong_of_mem_songRows h hrow)
  rw [← hmap]
  exact select_eq_ok hread (listsRows_songQuery limit hne) rfl readSong songOf cmp
    (fun a ha b hb => horder a b (hrows a ha) (hrows b hb))
    (fun row hrow => readSong_restrict (hrows row hrow))

variable {g : Graph}

theorem songsByLength_eq (h : g.RecordingsHavePlainNames) :
    songsByLength g = .ok (sortedBy Song.longestFirst g.songs) := by
  have hsongs := songs_eq h textsSpell.songsByLength (List.cons_ne_nil _ _) Song.longestFirst
    (fun _ _ => orderRows_longestFirst) (fun _ => true) (fun _ _ => rfl)
  rw [List.filter_true] at hsongs
  exact hsongs

theorem songsLongerThan_eq (h : g.RecordingsHavePlainNames) (threshold : Nat) :
    songsLongerThan g threshold =
      .ok (sortedBy Song.longestFirst (g.songs.filter (threshold < ·.seconds))) :=
  songs_eq h (readQuery?_songsLongerThanText threshold) (List.cons_ne_nil _ _) Song.longestFirst
    (fun _ _ => orderRows_longestFirst) (threshold < ·.seconds)
    (fun row hrow => by simp [keeps_isLongerThan hrow])

theorem longestSong_eq (h : g.RecordingsHavePlainNames) :
    longestSong g = .ok (sortedBy Song.longestFirst g.songs).head? := by
  have hsongs := songs_eq h textsSpell.longestSong (List.cons_ne_nil _ _) Song.longestFirst
    (fun _ _ => orderRows_longestFirst) (fun _ => true) (fun _ _ => rfl)
  refine bind_eq_ok_iff.mpr ⟨_, hsongs, ?_⟩
  rw [List.filter_true]
  cases sortedBy Song.longestFirst g.songs <;> rfl

/-- The last song of all, which comes first in the opposite order. -/
theorem shortestSong_eq (h : g.RecordingsHavePlainNames) :
    shortestSong g = .ok (sortedBy Song.longestFirst g.songs).getLast? := by
  have hsongs := songs_eq h textsSpell.shortestSong (List.cons_ne_nil _ _)
    (fun a b => Song.longestFirst b a) (fun _ _ => orderRows_shortestFirst) (fun _ => true)
    (fun _ _ => rfl)
  refine bind_eq_ok_iff.mpr ⟨_, hsongs, ?_⟩
  rw [List.filter_true, sortedBy_opposite, ← List.head?_reverse]
  cases (sortedBy Song.longestFirst g.songs).reverse <;> rfl

/-- The longest and the shortest song are the ends of the list of all songs, and the songs above
a threshold are those of its members that are longer, also if no length can reach the
threshold. -/
theorem songs_agree (h : g.RecordingsHavePlainNames) :
    ∃ songs, songsByLength g = .ok songs ∧ longestSong g = .ok songs.head? ∧
      shortestSong g = .ok songs.getLast? ∧
      ∀ threshold, songsLongerThan g threshold = .ok (songs.filter (threshold < ·.seconds)) := by
  refine ⟨_, songsByLength_eq h, longestSong_eq h, shortestSong_eq h, fun threshold => ?_⟩
  rw [songsLongerThan_eq h, filter_sortedBy]

/-- Two recordings of one length, of which one has a second length as well. -/
def tiedSongs : Graph :=
  let about (address : String) (property : Iri) (value : Term) : Triple :=
    ⟨.iri ⟨address⟩, property, value⟩
  Graph.ofTriples
    [about "song:a" Vocabulary.rdfType (.node (.iri Vocabulary.musicRecording)),
      about "song:a" Vocabulary.name (.literal (.plain "A")),
      about "song:a" Vocabulary.duration (.literal (.integer 60)),
      about "song:a" Vocabulary.duration (.literal (.integer 90)),
      about "song:b" Vocabulary.rdfType (.node (.iri Vocabulary.musicRecording)),
      about "song:b" Vocabulary.name (.literal (.plain "B")),
      about "song:b" Vocabulary.duration (.literal (.integer 60))]

/-- The ends agree where lengths are equal. -/
theorem songs_agree_tiedSongs :
    ∃ songs, songsByLength tiedSongs = .ok songs ∧ longestSong tiedSongs = .ok songs.head? ∧
      shortestSong tiedSongs = .ok songs.getLast? ∧
      songsLongerThan tiedSongs (2 ^ 64 - 1) = .ok (songs.filter (2 ^ 64 - 1 < ·.seconds)) := by
  have hplain : tiedSongs.RecordingsHavePlainNames := by
    intro n o _ ho
    have hnames : ∀ t ∈ tiedSongs.triples, t.predicate = Vocabulary.name →
        t.object = .literal (.plain "A") ∨ t.object = .literal (.plain "B") := by
      decide +kernel
    rcases hnames _ ho rfl with h | h
    · exact ⟨"A", h⟩
    · exact ⟨"B", h⟩
  obtain ⟨songs, hsongs, hlongest, hshortest, hlonger⟩ := songs_agree hplain
  exact ⟨songs, hsongs, hlongest, hshortest, hlonger _⟩

end Catalog

end Songbook
