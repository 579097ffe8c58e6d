import Songbook.Proofs.Turtle.Names

/-!
# Written documents are read back

The reader is followed along a written document, lexeme by lexeme. Behind each value it has
found all triples up to this one, and what it awaits depends on nothing but that triple, although
a text may still be pending because a language could follow it. `Settled` says what such a state
does with the next mark, and this is the invariant by which the statements of a document are
read one after the other.
-/

namespace Songbook.Turtle

open Rdf Text

/-- The state after the lexemes of a text. -/
def readFrom (st : Reading) (cs : List Char) : Option Reading :=
  (Lexeme.readAll cs).bind (·.foldlM Reading.read st)

theorem Spells.readFrom_append {cs : List Char} {l : Lexeme} (h : Spells cs l)
    {st st' : Reading} (hread : st.read l = some st') {blanks : List Char}
    (hblanks : blanks.all isSpace = true) {b : Char} (hb : isSpace b = true) (rest : List Char) :
    readFrom st (blanks ++ cs ++ b :: rest) = readFrom st' (b :: rest) := by
  unfold readFrom
  rw [h.readAll_append hblanks hb]
  cases Lexeme.readAll (b :: rest) with
  | none => rfl
  | some ls => simp [hread]

theorem readFrom_of_isSpace (st : Reading) {blanks : List Char} (h : blanks.all isSpace = true) :
    readFrom st blanks = some st := by
  rw [readFrom, readAll_of_isSpace h]
  rfl

/-! ### Lexemes -/

/-- The state of the reader inside of a written document. -/
def reached (found : List Triple) (awaited : Awaited) : Reading where
  spaces := boundSpaces
  awaited := awaited
  found := found

namespace StandsFor

variable {l : Lexeme} {i : Iri}

theorem read_subject (h : StandsFor l i) (found : List Triple) :
    (reached found .subject).read l = some (reached found (.property (.iri i) .nothing)) := by
  have hi := h.iri? (reached found .subject) rfl rfl
  rcases h.isName with ⟨text, rfl⟩ | ⟨space, name, doubtful, rfl⟩ <;>
    exact congrArg (·.bind fun i => (reached found .subject).deliver (.node (.iri i))) hi

theorem read_property (h : StandsFor l i) (found : List Triple) (about : Node)
    (otherwise : Alternative) :
    (reached found (.property about otherwise)).read l =
      some (reached found (.object about i)) := by
  have hi := h.iri? (reached found (.property about otherwise)) rfl rfl
  rcases h.isName with ⟨text, rfl⟩ | ⟨space, name, doubtful, rfl⟩ <;>
    exact congrArg (·.map fun i => reached found (.object about i)) hi

theorem read_object (h : StandsFor l i) (found : List Triple) (about : Node) (property : Iri) :
    (reached found (.object about property)).read l =
      some (reached (⟨about, property, .node (.iri i)⟩ :: found) (.more about property)) := by
  have hi := h.iri? (reached found (.object about property)) rfl rfl
  rcases h.isName with ⟨text, rfl⟩ | ⟨space, name, doubtful, rfl⟩ <;>
    exact congrArg
      (·.bind fun i => (reached found (.object about property)).deliver (.node (.iri i))) hi

end StandsFor

/-! ### Triples -/

/-- A state that goes on with every mark as if a triple were the last one found. -/
def Settled (st : Reading) (t : Triple) (found : List Triple) : Prop :=
  ∀ sign ∈ [",", ";", "."], st.read (.mark sign) =
    (reached (t :: found) (.more t.subject t.predicate)).read (.mark sign)

theorem readFrom_writeTerm {t : Triple} (h : t.object.Writable) (found : List Triple)
    {blanks : List Char} (hblanks : blanks.all isSpace = true) {b : Char}
    (hb : isSpace b = true) (rest : List Char) :
    ∃ st, Settled st t found ∧
      readFrom (reached found (.object t.subject t.predicate))
        (blanks ++ writeTerm t.object ++ b :: rest) = readFrom st (b :: rest) := by
  obtain ⟨subject, predicate, object⟩ := t
  have hsettled : Settled (reached (⟨subject, predicate, object⟩ :: found)
      (.more subject predicate)) ⟨subject, predicate, object⟩ found := fun _ _ => rfl
  cases object with
  | node n =>
    cases n with
    | blank k => exact absurd h id
    | iri i =>
      obtain ⟨l, hspells, hstands⟩ := exists_spells_writeName h
      exact ⟨_, hsettled,
        hspells.readFrom_append (hstands.read_object found subject predicate) hblanks hb rest⟩
  | literal l =>
    cases l with
    | plain s =>
      -- a text is not delivered yet, since a language or a datatype might follow it
      let pending : Reading :=
        { reached found (.object subject predicate) with pending := some (.text s.toList) }
      refine ⟨pending, ?_, ?_⟩
      · have hs : String.ofList s.toList = s := String.ofList_toList
        intro sign hsign
        simp only [List.mem_cons, List.not_mem_nil, or_false] at hsign
        rcases hsign with rfl | rfl | rfl <;>
          simp [pending, Reading.read, Reading.settle, Reading.deliver, Reading.emit, reached, hs]
      · rw [writeTerm, writeLiteral_plain]
        exact (spells_writeQuoted s).readFrom_append rfl hblanks hb rest
    | integer n =>
      refine ⟨_, hsettled, ?_⟩
      rw [writeTerm, writeLiteral_integer]
      refine (spells_integer n).readFrom_append ?_ hblanks hb rest
      have hnumber : (reached found (.object subject predicate)).read
          (.number .whole (Literal.integer n).text.toList) =
          (reached found (.object subject predicate)).deliver
            (.literal (.ofNumber .whole (Literal.integer n).text.toList)) := rfl
      rw [hnumber, ofNumber_text]
      rfl
    | _ => exact absurd h id

theorem readFrom_writeProperty {predicate : Iri} (h : predicate.Absolute) (found : List Triple)
    (about : Node) (otherwise : Alternative) {blanks : List Char}
    (hblanks : blanks.all isSpace = true) {b : Char} (hb : isSpace b = true) (rest : List Char) :
    readFrom (reached found (.property about otherwise))
        (blanks ++ writeProperty predicate ++ b :: rest) =
      readFrom (reached found (.object about predicate)) (b :: rest) := by
  unfold writeProperty
  split
  · subst predicate
    exact spells_a.readFrom_append rfl hblanks hb rest
  · obtain ⟨l, hspells, hstands⟩ := exists_spells_writeName h
    exact hspells.readFrom_append (hstands.read_property found about otherwise) hblanks hb rest

theorem readFrom_writePair {t : Triple} (h : t.Writable) (found : List Triple)
    (otherwise : Alternative) {blanks : List Char} (hblanks : blanks.all isSpace = true)
    {b : Char} (hb : isSpace b = true) (rest : List Char) :
    ∃ st, Settled st t found ∧
      readFrom (reached found (.property t.subject otherwise))
        (blanks ++ writePair t ++ b :: rest) = readFrom st (b :: rest) := by
  have hblank : isSpace ' ' = true := rfl
  have hbetween : [' '].all isSpace = true := rfl
  obtain ⟨st, hst, hobject⟩ := readFrom_writeTerm h.object found hbetween hb rest
  refine ⟨st, hst, ?_⟩
  rw [← hobject]
  have hproperty := readFrom_writeProperty h.predicate found t.subject otherwise hblanks hblank
    (writeTerm t.object ++ b :: rest)
  simpa [writePair] using hproperty

theorem readFrom_writeStatement {t : Triple} (h : t.Writable) (found : List Triple)
    {blanks : List Char} (hblanks : blanks.all isSpace = true) {b : Char}
    (hb : isSpace b = true) (rest : List Char) :
    ∃ st, Settled st t found ∧
      readFrom (reached found .subject) (blanks ++ writeStatement t ++ b :: rest) =
        readFrom st (b :: rest) := by
  have hblank : isSpace ' ' = true := rfl
  have hbetween : [' '].all isSpace = true := rfl
  obtain ⟨st, hst, hpair⟩ := readFrom_writePair h found .nothing hbetween hb rest
  refine ⟨st, hst, ?_⟩
  have hwritable := h.subject
  cases hsubject : t.subject with
  | blank k => simp [hsubject, Node.Writable] at hwritable
  | iri i =>
    obtain ⟨l, hspells, hstands⟩ :=
      exists_spells_writeName (i := i) (by simpa [hsubject, Node.Writable] using hwritable)
    have hnode := hspells.readFrom_append (hstands.read_subject found) hblanks hblank
      (writePair t ++ b :: rest)
    rw [← hpair, hsubject]
    simpa [writeStatement, writeNode, hsubject] using hnode

/-! ### Statements -/

/-- Every continuation of a statement begins with a blank. -/
theorem exists_writeAfter_eq (previous : Triple) (ts : List Triple) :
    ∃ rest, writeAfter previous ts = ' ' :: rest := by
  cases ts with
  | nil => exact ⟨_, rfl⟩
  | cons t ts =>
    rw [writeAfter]
    split
    · split <;> exact ⟨_, rfl⟩
    · exact ⟨_, rfl⟩

/-- A mark behind a value leads to what the marks of Turtle stand for. -/
theorem readFrom_mark {st st' : Reading} {t : Triple} {found : List Triple}
    (h : Settled st t found) {c : Char} (hc : c ∈ ['.', ',', ';'])
    (hread : (reached (t :: found) (.more t.subject t.predicate)).read
      (.mark (String.singleton c)) = some st') {b : Char} (hb : isSpace b = true)
    (rest : List Char) :
    readFrom st (' ' :: c :: b :: rest) = readFrom st' (b :: rest) := by
  have hsign : String.singleton c ∈ [",", ";", "."] := by
    simp only [List.mem_cons, List.not_mem_nil, or_false] at hc
    rcases hc with rfl | rfl | rfl <;> decide
  have hbetween : [' '].all isSpace = true := rfl
  exact (spells_mark hc).readFrom_append ((h _ hsign).trans hread) hbetween hb rest

/-- The statements behind a triple are read, and nothing is awaited behind them. -/
theorem readFrom_writeAfter {st : Reading} {previous : Triple} {found : List Triple}
    (h : Settled st previous found) {ts : List Triple} (hts : ∀ t ∈ ts, t.Writable) :
    readFrom st (writeAfter previous ts) =
      some (reached (ts.reverse ++ previous :: found) .subject) := by
  -- the induction is on the triples that follow; what is settled is always the last one written
  induction ts generalizing st previous found with
  | nil =>
    have hend := readFrom_mark h (c := '.') (by decide) rfl (b := '\n') rfl []
    exact hend.trans (readFrom_of_isSpace _ rfl)
  | cons t ts ih =>
    have ht : t.Writable := hts t (by simp)
    have hrest (st : Reading) (hst : Settled st t (previous :: found)) :=
      ih hst fun u hu => hts u (by simp [hu])
    have hfound : (t :: ts).reverse ++ previous :: found =
        ts.reverse ++ t :: previous :: found := by simp
    obtain ⟨after, hafter⟩ := exists_writeAfter_eq t ts
    rw [hfound, writeAfter]
    split
    · rename_i hsubject
      split
      · -- the same subject and property: a comma and a value
        rename_i hpredicate
        have hbetween : [' '].all isSpace = true := rfl
        obtain ⟨st', hst', hterm⟩ :=
          readFrom_writeTerm ht.object (previous :: found) hbetween (b := ' ') rfl after
        have hcomma : readFrom st (' ' :: ',' :: ' ' :: (writeTerm t.object ++ writeAfter t ts)) =
            readFrom (reached (previous :: found) (.object previous.subject previous.predicate))
              (' ' :: (writeTerm t.object ++ writeAfter t ts)) :=
          readFrom_mark h (by decide) rfl rfl _
        rw [← hrest st' hst', hafter, ← hterm, hsubject, hpredicate, ← hafter]
        simpa using hcomma
      · -- the same subject: a semicolon, a property and a value
        have hbetween : ['\n', '\t'].all isSpace = true := rfl
        obtain ⟨st', hst', hpair⟩ := readFrom_writePair ht (previous :: found) .closeOrSemicolon
          hbetween (b := ' ') rfl after
        have hsemicolon :
            readFrom st (' ' :: ';' :: '\n' :: ('\t' :: writePair t ++ writeAfter t ts)) =
              readFrom (reached (previous :: found) (.property previous.subject .closeOrSemicolon))
                ('\n' :: ('\t' :: writePair t ++ writeAfter t ts)) :=
          readFrom_mark h (by decide) rfl rfl _
        rw [← hrest st' hst', hafter, ← hpair, hsubject, ← hafter]
        simpa using hsemicolon
    · -- another subject: a point and a whole statement
      have hbetween : ['\n'].all isSpace = true := rfl
      obtain ⟨st', hst', hstatement⟩ :=
        readFrom_writeStatement ht (previous :: found) hbetween (b := ' ') rfl after
      have hpoint : readFrom st (' ' :: '.' :: '\n' :: (writeStatement t ++ writeAfter t ts)) =
          readFrom (reached (previous :: found) .subject)
            ('\n' :: (writeStatement t ++ writeAfter t ts)) :=
        readFrom_mark h (by decide) rfl rfl _
      rw [← hrest st' hst', hafter, ← hstatement, ← hafter]
      simpa using hpoint

/-! ### Documents -/

theorem readFrom_writeDirective {bound : String × String} (hbegin : IsPrefix bound.1.toList)
    (hspace : (Iri.mk bound.2).Absolute) (spaces : List (List Char × Iri)) {blanks : List Char}
    (hblanks : blanks.all isSpace = true) (rest : List Char) :
    readFrom { spaces := spaces } (blanks ++ writeDirective bound ++ rest) =
      readFrom { spaces := (bound.1.toList, ⟨bound.2⟩) :: spaces } ('\n' :: rest) := by
  obtain ⟨doubtful, hname⟩ := hbegin.spells (show writeLocal true [] = some [] from rfl)
  have hreference := spells_reference (hspace.not_mem (c := '>') (by decide))
    (hspace.not_mem (c := '\\') (by decide))
  have hrefer : Iri.refer? none bound.2.toList = some ⟨bound.2⟩ := by
    rw [Iri.refer?, String.ofList_toList]
    exact Iri.ofString?_text (i := ⟨bound.2⟩) hspace
  let awaitingSpace : Reading := { spaces := spaces, awaited := .space true }
  let awaitingNamespace : Reading :=
    { spaces := spaces, awaited := .namespaceOf true bound.1.toList }
  let awaitingPoint : Reading :=
    { spaces := (bound.1.toList, ⟨bound.2⟩) :: spaces, awaited := .point }
  have hdirective (cs : List Char) :
      readFrom { spaces := spaces } (blanks ++ "@prefix".toList ++ ' ' :: cs) =
        readFrom awaitingSpace (' ' :: cs) :=
    spells_prefix.readFrom_append rfl hblanks rfl cs
  have hbound (cs : List Char) :
      readFrom awaitingSpace ([' '] ++ (bound.1.toList ++ [':']) ++ ' ' :: cs) =
        readFrom awaitingNamespace (' ' :: cs) :=
    hname.readFrom_append rfl rfl rfl cs
  have hnamespace (cs : List Char) :
      readFrom awaitingNamespace ([' '] ++ ('<' :: bound.2.toList ++ ['>']) ++ ' ' :: cs) =
        readFrom awaitingPoint (' ' :: cs) :=
    hreference.readFrom_append
      (congrArg (·.bind fun i => some { awaitingPoint with spaces := (bound.1.toList, i) :: spaces })
        hrefer) rfl rfl cs
  have hpoint : readFrom awaitingPoint ([' '] ++ ['.'] ++ '\n' :: rest) =
      readFrom { spaces := (bound.1.toList, ⟨bound.2⟩) :: spaces } ('\n' :: rest) :=
    (spells_mark (c := '.') (by decide)).readFrom_append rfl rfl rfl rest
  have hbracket : ": <".toList = [':', ' ', '<'] := by decide
  have hend : "> .\n".toList = ['>', ' ', '.', '\n'] := by decide
  have hword : "@prefix ".toList = "@prefix".toList ++ [' '] := by decide
  unfold writeDirective
  rw [hbracket, hend, hword]
  simp only [List.append_assoc, List.cons_append, List.nil_append] at *
  rw [hdirective, hbound, hnamespace, hpoint]

theorem readFrom_boundPrefixes (rest : List Char) :
    readFrom {} (boundPrefixes.flatMap writeDirective ++ rest) =
      readFrom (reached [] .subject) ('\n' :: rest) := by
  have hbound : ∀ b ∈ boundPrefixes, IsPrefix b.1.toList ∧ (Iri.mk b.2).Absolute := by
    decide +kernel
  have hschema := hbound ("schema", Vocabulary.schemaNamespace) (by simp [boundPrefixes])
  have hspotify := hbound ("spotify", Vocabulary.spotifyNamespace) (by simp [boundPrefixes])
  have hnone : [].all isSpace = true := rfl
  have hbreak : ['\n'].all isSpace = true := rfl
  have hfirst := readFrom_writeDirective hschema.1 hschema.2 [] hnone
    (writeDirective ("spotify", Vocabulary.spotifyNamespace) ++ rest)
  have hsecond := readFrom_writeDirective hspotify.1 hspotify.2
    [("schema".toList, ⟨Vocabulary.schemaNamespace⟩)] hbreak rest
  simp only [boundPrefixes, List.flatMap_cons, List.flatMap_nil, List.append_nil,
    List.append_assoc, List.nil_append, List.cons_append] at *
  rw [hfirst, hsecond]
  rfl

/-- A written document states the triples that were written, in their order. -/
theorem readTriples?_writeTriples {ts : List Triple} (h : ∀ t ∈ ts, t.Writable) :
    readTriples? (writeTriples ts) = some ts := by
  have hread (cs : List Char) : readTriples? cs = (readFrom {} cs).bind fun st =>
      if st.finished then some st.found.reverse else none := by
    simp only [readTriples?, readFrom, Option.bind_eq_bind, Option.bind_assoc]
  rw [hread]
  cases ts with
  | nil => rw [writeTriples, readFrom_of_isSpace {} rfl]; rfl
  | cons t ts =>
    obtain ⟨after, hafter⟩ := exists_writeAfter_eq t ts
    have hbreak : ['\n'].all isSpace = true := rfl
    obtain ⟨st, hst, hstatement⟩ :=
      readFrom_writeStatement (h t (by simp)) [] hbreak (b := ' ') rfl after
    have hts : ∀ u ∈ ts, u.Writable := fun u hu => h u (by simp [hu])
    have hrest := readFrom_writeAfter hst hts
    have hdocument : readFrom {} (writeTriples (t :: ts)) =
        some (reached (ts.reverse ++ [t]) .subject) := by
      rw [writeTriples, List.append_assoc, readFrom_boundPrefixes, ← hrest, hafter, ← hstatement]
      rfl
    rw [hdocument]
    simp [reached, Reading.finished]

end Songbook.Turtle
