import Songbook.Proofs.Catalog.Reordering
import Songbook.Proofs.Turtle.Stated

/-!
# Lengths that count

A document may give a recording anything as its length. What counts is a whole number that is not
negative and fits into a word, in whatever way it is spelled: the questions about lengths go
through these, and to all questions everything else is as good as absent.
-/

namespace Songbook

open Rdf Sparql Catalog

namespace Rdf

/-- A value is a length of some seconds: by its datatype and its spelling it is a whole number
that fits into a word. -/
def Term.IsLength (o : Term) (seconds : Nat) : Prop :=
  ∃ (l : Literal) (w : Int64), o = .literal l ∧ l.datatype = Vocabulary.xsdInteger ∧
    Literal.readInteger? l.text.toList = some w ∧ w.toInt = seconds

/-- What is kept as a spelling is not the spelling of a whole number that fits into a word. -/
def Term.Normalized (o : Term) : Prop :=
  ∀ text datatype, o = .literal (.typed text datatype) →
    Literal.isIntegerDatatype datatype = true → Literal.readInteger? text.toList = none

namespace Literal

theorem isIntegerDatatype_xsdInteger : isIntegerDatatype Vocabulary.xsdInteger = true := by
  decide +kernel

theorem ofLexical_of_isIntegerDatatype {text : String} {datatype : Iri}
    (h : isIntegerDatatype datatype = true) :
    ofLexical text datatype =
      ((readInteger? text.toList).map integer).getD (typed text datatype) := by
  have hstring : datatype ≠ Vocabulary.xsdString := by
    rintro rfl
    revert h
    decide +kernel
  rw [ofLexical, if_neg hstring, if_pos h]

theorem getD_map_typed {α : Type} (value : Option α) (make : α → Literal)
    (hinteger : ∀ a n, make a ≠ integer n) (htyped : ∀ a s d, make a ≠ typed s d)
    (text : String) (datatype : Iri) :
    (∀ n, (value.map make).getD (typed text datatype) ≠ integer n) ∧
      ∀ s d, (value.map make).getD (typed text datatype) = typed s d → d = datatype := by
  cases value with
  | none =>
    refine ⟨nofun, fun s d hsd => ?_⟩
    cases hsd
    rfl
  | some a => exact ⟨fun n => hinteger a n, fun s d hsd => absurd hsd (htyped a s d)⟩

/-- A spelling with another datatype is no whole number, and is kept with its own datatype. -/
theorem ofLexical_of_not_isIntegerDatatype {text : String} {datatype : Iri}
    (h : isIntegerDatatype datatype = false) :
    (∀ n, ofLexical text datatype ≠ integer n) ∧
      ∀ s d, ofLexical text datatype = typed s d → d = datatype := by
  unfold ofLexical
  dsimp only
  -- one case for each kind of datatype, in the order in which they are tried
  split
  · exact ⟨nofun, nofun⟩
  · rw [if_neg (by simp [h])]
    split
    · exact getD_map_typed _ boolean nofun nofun text datatype
    · split
      · exact getD_map_typed _ decimal nofun nofun text datatype
      · split
        · exact getD_map_typed _ double nofun nofun text datatype
        · split
          · exact getD_map_typed _ single nofun nofun text datatype
          · unfold readTemporal?
            split
            · exact getD_map_typed _ period nofun nofun text datatype
            · cases lookupDatatype? Vocabulary.momentDatatypes datatype with
              | none => exact getD_map_typed none moment nofun nofun text datatype
              | some kind =>
                exact getD_map_typed (Moment.read? kind text.toList) moment nofun nofun text datatype

end Literal

theorem holdsOfStated_normalized : Turtle.HoldsOfStated Term.Normalized where
  node _ := nofun
  plain _ := nofun
  tagged _ _ := nofun
  boolean _ := nofun
  lexical text datatype := by
    intro text' datatype' heq hinteger
    have heq : Literal.ofLexical text datatype = .typed text' datatype' := Term.literal.inj heq
    by_cases hdatatype : Literal.isIntegerDatatype datatype = true
    · rw [Literal.ofLexical_of_isIntegerDatatype hdatatype] at heq
      cases hread : Literal.readInteger? text.toList with
      | none =>
        rw [hread] at heq
        cases heq
        exact hread
      | some w =>
        rw [hread] at heq
        cases heq
    · -- what another datatype keeps has that datatype, which is none of whole numbers
      have hfalse : Literal.isIntegerDatatype datatype = false := by simpa using hdatatype
      obtain rfl := (Literal.ofLexical_of_not_isIntegerDatatype hfalse).2 _ _ heq
      exact absurd hinteger hdatatype

theorem Term.Normalized.lengthOf?_eq_some_iff {o : Term} (h : o.Normalized) {seconds : Nat} :
    lengthOf? o = some seconds ↔ o.IsLength seconds := by
  constructor
  · intro hlength
    unfold lengthOf? at hlength
    split at hlength
    · rename_i w
      split at hlength
      · rename_i hw
        refine ⟨.integer w, w, rfl, rfl, Turtle.readInteger?_text w, ?_⟩
        rw [← Option.some.inj hlength, Int.toNat_of_nonneg hw]
      · cases hlength
    · cases hlength
  · rintro ⟨l, w, rfl, hdatatype, hread, hw⟩
    rcases Literal.eq_of_datatype_eq_xsdInteger hdatatype with ⟨n, rfl⟩ | ⟨text, rfl⟩
    · obtain rfl : n = w := Option.some.inj ((Turtle.readInteger?_text n).symm.trans hread)
      rw [lengthOf?_integer (by omega), hw, Int.toNat_natCast]
    · -- a spelling of this number would not have been kept
      have hnone := h text Vocabulary.xsdInteger rfl Literal.isIntegerDatatype_xsdInteger
      have hsome : Literal.readInteger? text.toList = some w := hread
      rw [hnone] at hsome
      cases hsome

/-- A spelling in a document is a length if its datatype is one of those of whole numbers and it
spells a number that is not negative and fits into a word. -/
theorem isLength_ofLexical_iff {text : String} {datatype : Iri} {seconds : Nat} :
    (Term.literal (.ofLexical text datatype)).IsLength seconds ↔
      Literal.isIntegerDatatype datatype = true ∧
        ∃ w, Literal.readInteger? text.toList = some w ∧ w.toInt = seconds := by
  rw [← (holdsOfStated_normalized.lexical text datatype).lengthOf?_eq_some_iff]
  by_cases hdatatype : Literal.isIntegerDatatype datatype = true
  · rw [Literal.ofLexical_of_isIntegerDatatype hdatatype]
    cases hread : Literal.readInteger? text.toList with
    | none => simp [lengthOf?]
    | some w =>
      have hword : lengthOf? (.literal (.integer w)) = some seconds ↔ w.toInt = seconds := by
        have hlength : lengthOf? (.literal (.integer w)) =
            if 0 ≤ w.toInt then some w.toInt.toNat else none := rfl
        rw [hlength]
        by_cases hw : 0 ≤ w.toInt
        · rw [if_pos hw, Option.some.injEq]
          omega
        · rw [if_neg hw]
          simp only [reduceCtorEq, false_iff]
          omega
      simpa [hdatatype] using hword
  · have hfalse : Literal.isIntegerDatatype datatype = false := by simpa using hdatatype
    have hnone : lengthOf? (.literal (.ofLexical text datatype)) = none := by
      unfold lengthOf?
      split
      · rename_i n heq
        exact absurd (Term.literal.inj heq)
          ((Literal.ofLexical_of_not_isIntegerDatatype hfalse).1 n)
      · rfl
    simp [hnone, hfalse]

end Rdf

namespace Graph

variable {g : Graph} {keep : Triple → Bool} {about : Term} {property : Iri}

/-- The graph with those triples that pass a test. -/
def restrict (g : Graph) (keep : Triple → Bool) : Graph where
  triples := g.triples.filter keep
  nodup := g.nodup.filter keep

theorem filter_objects_restrict {test : Term → Bool}
    (h : ∀ t ∈ g.triples, t.predicate = property → keep t = false → test t.object = false) :
    ((g.restrict keep).objects about property).filter test =
      (g.objects about property).filter test := by
  simp only [objects, restrict, ← List.filter_reverse, List.filterMap_filter,
    List.filter_filterMap]
  refine List.filterMap_congr fun t ht => ?_
  cases hkeep : keep t with
  | true => simp
  | false =>
    have htest := h t (List.mem_reverse.mp ht)
    by_cases hmatch : about = .node t.subject ∧ property = t.predicate
    · have hfails := htest hmatch.2.symm hkeep
      simp [hmatch, Option.filter_some, hfails]
    · simp [hmatch]

theorem objects_restrict (h : ∀ t ∈ g.triples, t.predicate = property → keep t = true) :
    (g.restrict keep).objects about property = g.objects about property := by
  have hfilter : ((g.restrict keep).objects about property).filter (fun _ => true) =
      (g.objects about property).filter fun _ => true :=
    filter_objects_restrict fun t ht hproperty hkeep => by simp [h t ht hproperty] at hkeep
  rwa [List.filter_true, List.filter_true] at hfilter

theorem subjects_restrict {value : Term}
    (h : ∀ t ∈ g.triples, t.predicate = property → keep t = true) :
    (g.restrict keep).subjects property value = g.subjects property value := by
  simp only [subjects, restrict, ← List.filter_reverse, List.filterMap_filter]
  refine List.filterMap_congr fun t ht => ?_
  by_cases hmatch : property = t.predicate ∧ value = t.object
  · simp [hmatch, h t (List.mem_reverse.mp ht) hmatch.1.symm]
  · simp [hmatch]

/-- Nothing is left out but values of the property for lengths that do not count. -/
def DropsNoLength (g : Graph) (keep : Triple → Bool) : Prop :=
  ∀ t ∈ g.triples, keep t = false → t.predicate = Vocabulary.duration ∧ lengthOf? t.object = none

namespace DropsNoLength

variable (h : g.DropsNoLength keep)

include h

theorem keep_eq_true (hproperty : property ≠ Vocabulary.duration) :
    ∀ t ∈ g.triples, t.predicate = property → keep t = true := by
  intro t ht hpredicate
  by_contra hkeep
  have hduration := (h t ht (by simpa using hkeep)).1
  exact hproperty (hpredicate.symm.trans hduration)

theorem recordings_eq : (g.restrict keep).recordings = g.recordings :=
  subjects_restrict (h.keep_eq_true (by decide))

theorem objects_eq (hproperty : property ≠ Vocabulary.duration) :
    (g.restrict keep).objects about property = g.objects about property :=
  objects_restrict (h.keep_eq_true hproperty)

theorem filter_durations_eq :
    ((g.restrict keep).objects about Vocabulary.duration).filter (fun d => (lengthOf? d).isSome) =
      (g.objects about Vocabulary.duration).filter fun d => (lengthOf? d).isSome :=
  filter_objects_restrict fun t ht _ hkeep => by rw [(h t ht hkeep).2]; rfl

theorem lengths_eq : (g.restrict keep).lengths about = g.lengths about := by
  -- only values that count are looked at
  have hfilter : ∀ ds : List Term,
      ds.filterMap lengthOf? = (ds.filter fun d => (lengthOf? d).isSome).filterMap lengthOf? := by
    intro ds
    rw [List.filterMap_filter]
    refine List.filterMap_congr fun d _ => ?_
    cases lengthOf? d <;> rfl
  rw [lengths, lengths, hfilter, h.filter_durations_eq, ← hfilter]

end DropsNoLength

end Graph

namespace Catalog

variable {g : Graph} {keep : Triple → Bool}

theorem songRows_eq (g : Graph) :
    songRows g = g.recordings.flatMap fun r => (g.objects r Vocabulary.name).flatMap fun t =>
      ((g.objects r Vocabulary.duration).filter fun d => (lengthOf? d).isSome).flatMap fun d =>
        [[(track, r), (songTitle, t), (duration, d)]] := by
  simp only [songRows, rowsOf_songs, List.filter_flatMap]
  refine List.flatMap_congr fun r _ => List.flatMap_congr fun t _ => ?_
  rw [filter_eq_flatMap, List.flatMap_assoc]
  refine List.flatMap_congr fun d _ => ?_
  have hkeeps : countsAsLength.keeps [(track, r), (songTitle, t), (duration, d)] =
      (lengthOf? d).isSome := keeps_countsAsLength rfl
  cases hd : (lengthOf? d).isSome <;> simp [hkeeps, hd]

/-- A question for songs looks at no length that does not count. -/
theorem songs_restrict (h : g.DropsNoLength keep) {text : String} {conditions : List Expression}
    {orderBy : List (Direction × Expression)} {limit : Option Nat}
    (htext : readQuery? text = some (.rows (songQuery conditions orderBy limit))) :
    songs (g.restrict keep) text = songs g text := by
  have hmatching : (songQuery conditions orderBy limit).matching (g.restrict keep) =
      (songQuery conditions orderBy limit).matching g := by
    simp (disch := decide) only [matching_songQuery, songRows_eq, h.recordings_eq, h.objects_eq,
      h.filter_durations_eq]
  rw [songs, songs, select_eq_of_matching_eq htext hmatching]

theorem answersAlike_restrict (h : g.DropsNoLength keep) : AnswersAlike (g.restrict keep) g := by
  -- a question is answered by its rows, so that equal rows are all there is to show
  have halbums : songsByAlbumQuery.matching (g.restrict keep) = songsByAlbumQuery.matching g := by
    simp (disch := decide) only [matching_songsByAlbum, h.recordings_eq, h.objects_eq]
  have hartists :
      songsByArtistQuery.matching (g.restrict keep) = songsByArtistQuery.matching g := by
    simp (disch := decide) only [matching_songsByArtist, h.recordings_eq, h.objects_eq]
  have hfound (name : String) : (songsForArtistQuery name).matching (g.restrict keep) =
      (songsForArtistQuery name).matching g := by
    simp (disch := decide) only [matching_songsForArtist, h.recordings_eq, h.objects_eq]
  have hnames : allArtistsQuery.matching (g.restrict keep) = allArtistsQuery.matching g := by
    simp (disch := decide) only [matching_allArtists, rowsOf_credits, h.recordings_eq,
      h.objects_eq]
  constructor
  case totalLength =>
    have hlengths : (g.restrict keep).allLengths = g.allLengths := by
      simp only [Graph.allLengths, h.recordings_eq]
      exact List.flatMap_congr fun r _ => h.lengths_eq
    rw [totalLength_eq, totalLength_eq, hlengths]
  case songCount => rw [songCount_eq, songCount_eq, h.recordings_eq]
  case songsByLength => exact songs_restrict h textsSpell.songsByLength
  case longestSong => rw [longestSong, longestSong, songs_restrict h textsSpell.longestSong]
  case shortestSong => rw [shortestSong, shortestSong, songs_restrict h textsSpell.shortestSong]
  case songsLongerThan =>
    intro threshold
    exact songs_restrict h (readQuery?_songsLongerThanText threshold)
  case songsByAlbum =>
    rw [songsByAlbum, songsByAlbum, select_eq_of_matching_eq textsSpell.songsByAlbum halbums]
  case songsByArtist =>
    rw [songsByArtist, songsByArtist, select_eq_of_matching_eq textsSpell.songsByArtist hartists]
  case artistsByAppearance =>
    have hcounted : artistsByAppearanceQuery.matching (g.restrict keep) =
        artistsByAppearanceQuery.matching g := hnames
    rw [artistsByAppearance, artistsByAppearance,
      select_eq_of_matching_eq textsSpell.artistsByAppearance hcounted]
  case allArtists =>
    rw [allArtists, allArtists, select_eq_of_matching_eq textsSpell.allArtists hnames]
  case songsForArtist =>
    intro name
    rw [songsForArtist, songsForArtist,
      select_eq_of_matching_eq (readQuery?_songsForArtistText name) (hfound name)]

/-! ### Titles of any kind -/

/-- A question for songs is answered where titles are literals, with songs whose rows fulfil its
conditions. -/
theorem exists_songs_eq_ok (h : g.RecordingsHaveLiteralNames) {text : String}
    {conditions : List Expression} {orderBy : List (Direction × Expression)} {limit : Option Nat}
    (htext : readQuery? text = some (.rows (songQuery conditions orderBy limit)))
    (horderBy : orderBy ≠ []) :
    ∃ rows, rows.Perm ((songRows g).filter fun row => conditions.all (·.keeps row)) ∧
      songs g text = .ok ((limit.elim id List.take rows).map titledSongOf) :=
  exists_songs_eq_ok_of_tells htext horderBy fun _ hrow =>
    tellsTitledSong_of_mem_songRows h (List.mem_of_mem_filter hrow)

/-- A recording with lengths of several kinds. -/
def oddLengths : String :=
  Text.lines
    ["@prefix schema: <http://schema.org/> .",
      "@prefix xsd: <http://www.w3.org/2001/XMLSchema#> .",
      "<song:1> a schema:MusicRecording ; schema:name \"A\"@en ;",
      "  schema:duration \"+07\"^^xsd:int , \"3:30\" , -5 , 1.5 , 9223372036854775808 ."]

end Catalog

end Songbook
