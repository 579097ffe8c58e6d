import Mathlib
import Songbook.Proofs.Catalog.Texts
import Songbook.Proofs.Sparql.Clauses
import Songbook.Proofs.Sparql.Spellings

/-!
# Texts with a parameter

Two query texts have a parameter, a threshold and the name of an artist. Whatever the parameter
is, they are read clause by clause, and the parameter is read as one literal.
-/

namespace Songbook.Catalog

open Rdf Sparql Reader

variable {scope : Scope} {r : List Char} {inner : Inner} (n : Nested)

/-! ### Declarations -/

/-- What is known once the first namespace is declared. -/
def schemaDeclared : Scope where
  spaces := [("schema".toList, ⟨Vocabulary.schemaNamespace⟩)]

/-- What is known once both namespaces are declared. -/
def bothDeclared : Scope where
  spaces := [("xsd".toList, ⟨Vocabulary.xsdNamespace⟩),
    ("schema".toList, ⟨Vocabulary.schemaNamespace⟩)]

/-- What is known while the braces are read. -/
def asked : Scope := { bothDeclared with aggregates := [[]] }

theorem readDeclaration_schema : readDeclaration
    ⟨"PREFIX schema: <http://schema.org/>".toList ++ '\n' :: r, {}⟩ =
      some ((), ⟨'\n' :: r, schemaDeclared⟩) := by
  have hspace : spaced readSpace ⟨"schema: <http://schema.org/>".toList ++ '\n' :: r, {}⟩ =
      some ("schema".toList, ⟨"<http://schema.org/>".toList ++ '\n' :: r, {}⟩) := by cbv
  have hreference : readReference ⟨"<http://schema.org/>".toList ++ '\n' :: r, {}⟩ =
      some (⟨Vocabulary.schemaNamespace⟩, ⟨'\n' :: r, {}⟩) := by cbv
  exact readDeclaration_prefix hspace rfl hreference

theorem readDeclaration_xsd : readDeclaration
    ⟨"PREFIX xsd: <http://www.w3.org/2001/XMLSchema#>".toList ++ '\n' :: r, schemaDeclared⟩ =
      some ((), ⟨'\n' :: r, bothDeclared⟩) := by
  have hspace : spaced readSpace
      ⟨"xsd: <http://www.w3.org/2001/XMLSchema#>".toList ++ '\n' :: r, schemaDeclared⟩ =
      some ("xsd".toList,
        ⟨"<http://www.w3.org/2001/XMLSchema#>".toList ++ '\n' :: r, schemaDeclared⟩) := by cbv
  have hreference : readReference
      ⟨"<http://www.w3.org/2001/XMLSchema#>".toList ++ '\n' :: r, schemaDeclared⟩ =
      some (⟨Vocabulary.xsdNamespace⟩, ⟨'\n' :: r, schemaDeclared⟩) := by cbv
  exact readDeclaration_prefix hspace rfl hreference

theorem readDeclarations_prologue (hr : r.head? = some 'S') :
    readDeclarations ⟨"PREFIX schema: <http://schema.org/>".toList ++ '\n' ::
      ("PREFIX xsd: <http://www.w3.org/2001/XMLSchema#>".toList ++ '\n' :: r), {}⟩ =
      some ((), ⟨r, bothDeclared⟩) := by
  obtain ⟨t, rfl⟩ := List.head?_eq_some_iff.1 hr
  have hschema : spaced readDeclaration ⟨"PREFIX schema: <http://schema.org/>".toList ++ '\n' ::
      ("PREFIX xsd: <http://www.w3.org/2001/XMLSchema#>".toList ++ '\n' :: 'S' :: t), {}⟩ =
      some ((), ⟨"PREFIX xsd: <http://www.w3.org/2001/XMLSchema#>".toList ++ '\n' :: 'S' :: t,
        schemaDeclared⟩) := spaced_of_skip readDeclaration_schema rfl
  have hxsd : spaced readDeclaration
      ⟨"PREFIX xsd: <http://www.w3.org/2001/XMLSchema#>".toList ++ '\n' :: 'S' :: t,
        schemaDeclared⟩ = some ((), ⟨'S' :: t, bothDeclared⟩) :=
    spaced_of_skip readDeclaration_xsd rfl
  refine readDeclarations_eq (.step hschema ?_ (.step hxsd ?_ (.stop (spaced_none
    readDeclaration_select))))
  · simp
  · simp

/-! ### Unknowns in parentheses -/

theorem readPrimary_duration {c : Char} (hc : c = ' ' ∨ c = ')') :
    inner.readPrimary ⟨"?duration".toList ++ c :: r, scope⟩ =
      some (.unknown duration, ⟨c :: r, scope⟩) := by
  obtain rfl | rfl := hc <;> cbv

theorem readPrimary_songTitle :
    inner.readPrimary ⟨"?songTitle".toList ++ ')' :: r, scope⟩ =
      some (.unknown songTitle, ⟨')' :: r, scope⟩) := by
  cbv

theorem readParenthesized_duration :
    n.around.expressions.readParenthesized ⟨"(?duration)".toList ++ r, scope⟩ =
      some (.unknown duration, ⟨r, scope⟩) := by
  refine Inner.readParenthesized_eq (r := "?duration".toList ++ ')' :: r) rfl ?_
  refine Inner.readExpression_relation (Inner.readRelation_numeric ?_)
  exact Inner.readNumeric_primary (readPrimary_duration (.inr rfl)) (by decide) rfl (by decide)

theorem readParenthesized_songTitle :
    n.around.expressions.readParenthesized ⟨"(?songTitle)".toList ++ r, scope⟩ =
      some (.unknown songTitle, ⟨r, scope⟩) := by
  refine Inner.readParenthesized_eq (r := "?songTitle".toList ++ ')' :: r) rfl ?_
  refine Inner.readExpression_relation (Inner.readRelation_numeric ?_)
  exact Inner.readNumeric_primary readPrimary_songTitle (by decide) rfl (by decide)

/-! ### A threshold -/

section Thresholds

/-- No aggregate is named where a datatype is asked for. -/
theorem readAggregate_none : inner.readAggregate ⟨'D' :: r, scope⟩ = none := by
  have hcount : inner.readCount ⟨'D' :: r, scope⟩ = none :=
    bind_eq_none (spaced_none (keyword_none rfl (by decide)))
  have hsum : inner.readSum ⟨'D' :: r, scope⟩ = none :=
    bind_eq_none (spaced_none (keyword_none rfl (by decide)))
  have hother : inner.readOtherAggregate ⟨'D' :: r, scope⟩ = none :=
    bind_eq_none (spaced_none rfl)
  have hconcatenation : inner.readConcatenation ⟨'D' :: r, scope⟩ = none :=
    bind_eq_none (spaced_none (keyword_none rfl (by decide)))
  refine bind_eq_none ?_
  rw [orElse_right hcount, orElse_right hsum, orElse_right hother, hconcatenation]

theorem readPrimary_datatype :
    n.around.expressions.readPrimary ⟨"DATATYPE(?duration) = xsd:integer".toList ++ r, scope⟩ =
      some (.datatype (.unknown duration), ⟨" = xsd:integer".toList ++ r, scope⟩) := by
  have hfront : "DATATYPE(?duration) = xsd:integer".toList ++ r =
      'D' :: ("ATATYPE(?duration) = xsd:integer".toList ++ r) := rfl
  have hparenthesized : n.around.expressions.readParenthesized
      ⟨'D' :: ("ATATYPE(?duration) = xsd:integer".toList ++ r), scope⟩ = none :=
    between_none (mark_none rfl (by decide))
  have hcall : n.around.expressions.readIriOrCall
      ⟨'D' :: ("ATATYPE(?duration) = xsd:integer".toList ++ r), scope⟩ = none := by
    cbv
  have hvariable : readVariable
      ⟨'D' :: ("ATATYPE(?duration) = xsd:integer".toList ++ r), scope⟩ = none :=
    readVariable_none (by decide) (by decide)
  have hliteral : readLiteral
      ⟨'D' :: ("ATATYPE(?duration) = xsd:integer".toList ++ r), scope⟩ = none := by
    cbv
  have hword : spaced (keyword "datatype")
      ⟨'D' :: ("ATATYPE(?duration) = xsd:integer".toList ++ r), scope⟩ =
      some ((), ⟨"(?duration)".toList ++ (" = xsd:integer".toList ++ r), scope⟩) :=
    spaced_of_skip rfl rfl
  rw [hfront, Inner.readPrimary, orElse_right hparenthesized, orElse_right hcall,
    orElse_right (bind_eq_none hvariable), orElse_right (bind_eq_none hliteral),
    Inner.readBuiltIn, orElse_right readAggregate_none]
  refine orElse_left ?_
  rw [bind_eq hword, bind_eq (readParenthesized_duration n)]
  rfl

theorem readPrimary_integer :
    inner.readPrimary ⟨"xsd:integer && ?duration".toList ++ r, asked⟩ =
      some (.term (.node (.iri Vocabulary.xsdInteger)), ⟨" && ?duration".toList ++ r, asked⟩) := by
  cbv

theorem readParenthesized_countsAsLength :
    n.around.around.expressions.readParenthesized
      ⟨"(DATATYPE(?duration) = xsd:integer && ?duration >= 0)".toList ++ r, asked⟩ =
      some (countsAsLength, ⟨r, asked⟩) := by
  have hdatatype : spaced n.around.expressions.readNumeric
      ⟨"DATATYPE(?duration) = xsd:integer".toList ++ (" && ?duration >= 0)".toList ++ r), asked⟩ =
      some (.datatype (.unknown duration),
        ⟨"= xsd:integer".toList ++ (" && ?duration >= 0)".toList ++ r), asked⟩) :=
    spaced_of_skip (Inner.readNumeric_primary (readPrimary_datatype n) (by decide) rfl (by decide))
      rfl
  have hequal : spaced Inner.readComparisonSign
      ⟨"= xsd:integer".toList ++ (" && ?duration >= 0)".toList ++ r), asked⟩ =
      some (some .equal, ⟨"xsd:integer".toList ++ (" && ?duration >= 0)".toList ++ r), asked⟩) :=
    spaced_of_skip rfl rfl
  have hinteger : n.around.expressions.readNumeric
      ⟨"xsd:integer".toList ++ (" && ?duration >= 0)".toList ++ r), asked⟩ =
      some (.term (.node (.iri Vocabulary.xsdInteger)),
        ⟨" && ?duration >= 0)".toList ++ r, asked⟩) :=
    Inner.readNumeric_primary (readPrimary_integer (r := " >= 0)".toList ++ r)) (by decide) rfl
      (by decide)
  have hfirst : spaced n.around.expressions.readRelation
      ⟨"DATATYPE(?duration) = xsd:integer".toList ++ (" && ?duration >= 0)".toList ++ r), asked⟩ =
      some (.compare (.datatype (.unknown duration)) .equal
          (.term (.node (.iri Vocabulary.xsdInteger))),
        ⟨"&& ?duration >= 0)".toList ++ r, asked⟩) :=
    spaced_of_skip (Inner.readRelation_compare hdatatype hequal hinteger) rfl
  have hand : spaced (mark "&&") ⟨"&& ?duration >= 0)".toList ++ r, asked⟩ =
      some ((), ⟨"?duration >= 0)".toList ++ r, asked⟩) :=
    spaced_of_skip rfl rfl
  have hduration : spaced n.around.expressions.readNumeric
      ⟨"?duration".toList ++ ' ' :: (">= 0)".toList ++ r), asked⟩ =
      some (.unknown duration, ⟨">= 0)".toList ++ r, asked⟩) :=
    spaced_of_skip (Inner.readNumeric_primary (readPrimary_duration (.inl rfl)) (by decide) rfl
      (by decide)) rfl
  have hatLeast : spaced Inner.readComparisonSign ⟨">= 0)".toList ++ r, asked⟩ =
      some (some .atLeast, ⟨'0' :: ')' :: r, asked⟩) :=
    spaced_of_skip rfl rfl
  have hzero : n.around.expressions.readNumeric ⟨'0' :: ')' :: r, asked⟩ =
      some (.term (.literal (.integer 0)), ⟨')' :: r, asked⟩) :=
    readNumeric_digits (show ['0'] ≠ [] by decide) (by decide)
  have hsecond : n.around.expressions.readRelation ⟨"?duration >= 0)".toList ++ r, asked⟩ =
      some (.compare (.unknown duration) .atLeast (.term (.literal (.integer 0))),
        ⟨')' :: r, asked⟩) :=
    Inner.readRelation_compare hduration hatLeast hzero
  have hlt : r.length + 1 < ("&& ?duration >= 0)".toList ++ r).length := by simp
  exact Inner.readParenthesized_eq rfl
    (Inner.readExpression_both hfirst hand hsecond hlt : n.around.expressions.readExpression _ = _)

/-- A length is compared with a threshold, whatever the threshold is. -/
theorem readParenthesized_isLongerThan (threshold : Nat) :
    n.around.expressions.readParenthesized
      ⟨"(?duration > ".toList ++ ((toString threshold).toList ++ ')' :: r), scope⟩ =
      some (isLongerThan threshold, ⟨r, scope⟩) := by
  have hdigits : (toString threshold).toList = Nat.toDigits 10 threshold := by simp [toString]
  have hne : (toString threshold).toList ≠ [] := hdigits ▸ Nat.toDigits_ne_nil
  have hall : (toString threshold).toList.all Char.isDigit = true :=
    hdigits ▸ Turtle.all_isDigit_toDigits threshold
  have hduration : spaced n.expressions.readNumeric
      ⟨"?duration".toList ++ ' ' :: ("> ".toList ++ ((toString threshold).toList ++ ')' :: r)),
        scope⟩ =
      some (.unknown duration, ⟨"> ".toList ++ ((toString threshold).toList ++ ')' :: r), scope⟩) :=
    spaced_of_skip (Inner.readNumeric_primary (readPrimary_duration (.inl rfl)) (by decide) rfl
      (by decide)) rfl
  have habove : spaced Inner.readComparisonSign
      ⟨"> ".toList ++ ((toString threshold).toList ++ ')' :: r), scope⟩ =
      some (some .above, ⟨(toString threshold).toList ++ ')' :: r, scope⟩) :=
    spaced_of_skip (t := ' ' :: ((toString threshold).toList ++ ')' :: r)) rfl
      (skipSpace_digits hne hall)
  -- whatever the digits are, the parenthesis behind them ends the number
  have hthreshold : n.expressions.readNumeric ⟨(toString threshold).toList ++ ')' :: r, scope⟩ =
      some (.term (.literal (.ofLexical (toString threshold) Vocabulary.xsdInteger)),
        ⟨')' :: r, scope⟩) := by
    rw [readNumeric_digits hne hall, Literal.ofNumber, String.ofList_toList, NumberKind.datatype]
  have hrelation : n.expressions.readRelation
      ⟨"?duration".toList ++ ' ' :: ("> ".toList ++ ((toString threshold).toList ++ ')' :: r)),
        scope⟩ = some (isLongerThan threshold, ⟨')' :: r, scope⟩) :=
    Inner.readRelation_compare hduration habove hthreshold
  exact Inner.readParenthesized_eq rfl
    (Inner.readExpression_relation hrelation : n.expressions.readExpression _ = _)

theorem readStatements_songs :
    n.around.around.groups.readStatements
      ⟨"?track a schema:MusicRecording ;\nschema:name ?songTitle ;\n".toList ++
        ("schema:duration ?duration .\nFILTER (".toList ++ r), asked⟩ =
      some (.ofTriples { patterns := [isRecording, hasTitle, hasLength] },
        ⟨"FILTER (".toList ++ r, asked⟩) := by
  cbv

theorem readStatements_filter :
    n.around.around.groups.readStatements ⟨"FILTER (".toList ++ r, asked⟩ = none := by
  cbv

theorem readStatement_closing :
    n.around.around.patterns.readStatement ⟨'}' :: r, asked⟩ = none := by
  cbv

theorem readStatements_closing :
    n.around.around.groups.readStatements ⟨'}' :: r, asked⟩ = none :=
  bind_eq_none (bind_eq_none (spaced_none (readStatement_closing n)))

theorem readGroup_songsLongerThan (threshold : Nat) :
    n.around.around.groups.readGroup
      ⟨"\x7b\n?track a schema:MusicRecording ;\nschema:name ?songTitle ;\n".toList ++
        ("schema:duration ?duration .\nFILTER (".toList ++
          ("DATATYPE(?duration) = xsd:integer && ?duration >= 0)\nFILTER (".toList ++
            ("?duration > ".toList ++ ((toString threshold).toList ++ (")\n\x7d".toList ++ r))))),
        asked⟩ =
      some ({ triples := { patterns := [isRecording, hasTitle, hasLength] },
              conditions := [countsAsLength, isLongerThan threshold],
              names := [track, track, songTitle, track, duration] }, ⟨r, asked⟩) := by
  -- behind the statements there are two conditions, each of which ends at a closed parenthesis
  have hcounts : n.around.around.groups.readFurther
      ⟨"FILTER (".toList ++
        ("DATATYPE(?duration) = xsd:integer && ?duration >= 0)\nFILTER (".toList ++
          ("?duration > ".toList ++ ((toString threshold).toList ++ (")\n\x7d".toList ++ r)))), asked⟩ =
      some ((.group { conditions := [countsAsLength] }, none), ⟨"FILTER (".toList ++
        ("?duration > ".toList ++ ((toString threshold).toList ++ (")\n\x7d".toList ++ r))), asked⟩) :=
    readFurther_eq (spaced_of_skip (readPart_filter (readParenthesized_countsAsLength n)) rfl)
      (by decide) (readStatements_filter n) rfl
  have hlonger : n.around.around.groups.readFurther
      ⟨"FILTER (".toList ++
        ("?duration > ".toList ++ ((toString threshold).toList ++ (")\n\x7d".toList ++ r))), asked⟩ =
      some ((.group { conditions := [isLongerThan threshold] }, none), ⟨'}' :: r, asked⟩) :=
    readFurther_eq (spaced_of_skip (readPart_filter
      (readParenthesized_isLongerThan n.around threshold)) rfl) (by decide)
      (readStatements_closing n) rfl
  have hmore : Repeats n.around.around.groups.readFurther
      ⟨"FILTER (".toList ++
        ("DATATYPE(?duration) = xsd:integer && ?duration >= 0)\nFILTER (".toList ++
          ("?duration > ".toList ++ ((toString threshold).toList ++ (")\n\x7d".toList ++ r)))), asked⟩
      ([countsAsLength, isLongerThan threshold].map fun e =>
        (.group { conditions := [e] }, none)) ⟨'}' :: r, asked⟩ := by
    refine .step hcounts ?_ (.step hlonger ?_ (.stop readFurther_closing))
    · simp
    · simp
      omega
  exact readGroup_eq rfl rfl rfl (readParts_eq (readStatements_songs n) rfl hmore)

theorem readModifiers_longestFirst :
    n.around.expressions.readModifiers
      ⟨"ORDER BY DESC(?duration) ASC(?songTitle)\n".toList, asked⟩ =
      some ({ orderBy := longestFirst }, ⟨[], asked⟩) := by
  have hduration : spaced n.around.expressions.readSortKey
      ⟨"DESC(?duration) ASC(?songTitle)\n".toList, asked⟩ =
      some ((.descending, .unknown duration), ⟨"ASC(?songTitle)\n".toList, asked⟩) :=
    spaced_of_skip (readSortKey_descending (readParenthesized_duration n)) rfl
  have htitle : spaced n.around.expressions.readSortKey ⟨"ASC(?songTitle)\n".toList, asked⟩ =
      some ((.ascending, .unknown songTitle), ⟨[], asked⟩) :=
    spaced_of_skip (readSortKey_ascending (readParenthesized_songTitle n)) rfl
  have hlt : ([] : List Char).length < "ASC(?songTitle)\n".toList.length := by decide
  exact readModifiers_orderBy rfl
    (some1_eq hduration (.step htitle hlt (.stop (spaced_none Inner.readSortKey_nil))))

theorem toList_songsLongerThanText (threshold : Nat) :
    (songsLongerThanText threshold).toList =
      "PREFIX schema: <http://schema.org/>".toList ++ '\n' ::
        ("PREFIX xsd: <http://www.w3.org/2001/XMLSchema#>".toList ++ '\n' ::
          ("SELECT ?songTitle ?duration\nWHERE ".toList ++
            ("\x7b\n?track a schema:MusicRecording ;\nschema:name ?songTitle ;\n".toList ++
              ("schema:duration ?duration .\nFILTER (".toList ++
                ("DATATYPE(?duration) = xsd:integer && ?duration >= 0)\nFILTER (".toList ++
                  ("?duration > ".toList ++ ((toString threshold).toList ++ (")\n\x7d".toList ++
                    "\nORDER BY DESC(?duration) ASC(?songTitle)\n".toList)))))))) := by
  rw [songsLongerThanText, Text.toList_lines]
  simp [songLines, prologue, countsLine, longestFirstLines]

theorem readProjection_songs :
    spaced inner.readProjection
      ⟨"SELECT ?songTitle ?duration\nWHERE ".toList ++ r, bothDeclared⟩ =
      some ((.columns [{ name := songTitle }, { name := duration }], .kept),
        ⟨"WHERE ".toList ++ r, asked⟩) := by
  have hcolumns : some1 (spaced inner.readColumn)
      ⟨"?songTitle ?duration\nWHERE ".toList ++ r, asked⟩ =
      some ([{ name := songTitle }, { name := duration }], ⟨"WHERE ".toList ++ r, asked⟩) := by
    cbv
  exact spaced_of_skip (readProjection_columns hcolumns) rfl

/-- A text with a threshold spells the query with this threshold. -/
theorem readForm_songsLongerThanText (threshold : Nat) :
    n.around.around.around.readForm ⟨(songsLongerThanText threshold).toList, {}⟩ =
      some (.rows (songQuery [isLongerThan threshold] longestFirst none), ⟨[], bothDeclared⟩) := by
  have hend : Text.skipSpace false "\nORDER BY DESC(?duration) ASC(?songTitle)\n".toList =
      "ORDER BY DESC(?duration) ASC(?songTitle)\n".toList := rfl
  have hgroup := spaced_of_skip (readWhere_eq (readGroup_songsLongerThan n threshold)) hend
  have hcolumns : checkColumns false ([track, track, songTitle, track, duration] ++ [])
      [{ name := songTitle }, { name := duration }] [] = some () := by decide
  rw [toList_songsLongerThanText]
  refine readForm_eq rfl (readDeclarations_prologue rfl) rfl ?_
  exact readSelect_eq readProjection_songs (readDataset_where rfl) hgroup
    (readModifiers_longestFirst _) (select_columns rfl hcolumns)

/-- The depth of a text does not depend on digits in it. -/
theorem depthOf_songsLongerThanText (threshold : Nat) :
    depthOf (songsLongerThanText threshold).toList = 7 := by
  have hopens : ∀ c ∈ Nat.toDigits 10 threshold, (c ≠ '(' ∧ c ≠ '[') ∧ c ≠ '\x7b' := by
    intro c hc
    have hdigit := List.all_eq_true.1 (Turtle.all_isDigit_toDigits threshold) c hc
    exact ⟨⟨Turtle.ne_of_isDigit hdigit (by decide), Turtle.ne_of_isDigit hdigit (by decide)⟩,
      Turtle.ne_of_isDigit hdigit (by decide)⟩
  rw [toList_songsLongerThanText, depthOf]
  simpa [List.filter_append] using hopens

theorem readQuery?_songsLongerThanText (threshold : Nat) :
    readQuery? (songsLongerThanText threshold) =
      some (.rows (songQuery [isLongerThan threshold] longestFirst none)) := by
  have hdepth : Nested.ofDepth 7 = (Nested.ofDepth 4).around.around.around := rfl
  rw [readQuery?_eq, readChars?, depthOf_songsLongerThanText, hdepth, readForm_songsLongerThanText]

end Thresholds

/-! ### The name of an artist -/

section Names

theorem readStatement_songs :
    spaced n.around.around.patterns.readStatement
      ⟨"?track a schema:MusicRecording ;\nschema:name ?songTitle ;\n".toList ++
        ("schema:byArtist ?artist .\n?artist schema:name ".toList ++ r), asked⟩ =
      some ({ patterns := [isRecording, hasTitle, isByArtist] },
        ⟨".\n?artist schema:name ".toList ++ r, asked⟩) := by
  cbv

/-- The subject and the property in front of the name of an artist. -/
theorem readSubject_artist :
    spaced readSlot ⟨"?artist schema:name ".toList ++ r, scope⟩ =
      some (.unknown artist, ⟨"schema:name ".toList ++ r, scope⟩) := by
  cbv

theorem readProperty_name :
    spaced n.patterns.property ⟨"schema:name ".toList ++ '"' :: r, asked⟩ =
      some (.path (.iri Vocabulary.name), ⟨'"' :: r, asked⟩) := by
  cbv

theorem readStatement_artist (name : String) :
    spaced n.patterns.readStatement
      ⟨"?artist schema:name ".toList ++ ((Literal.plain name).write ++ ' ' :: '.' :: r), asked⟩ =
      some ({ patterns := [.having artist Vocabulary.name (.known (.literal (.plain name)))] },
        ⟨'.' :: r, asked⟩) := by
  have hproperty : spaced n.patterns.property
      ⟨"schema:name ".toList ++ ((Literal.plain name).write ++ ' ' :: '.' :: r), asked⟩ =
      some (.path (.iri Vocabulary.name),
        ⟨(Literal.plain name).write ++ ' ' :: '.' :: r, asked⟩) := by
    rw [write_plain]
    exact readProperty_name n
  have hnode : spaced n.patterns.readNode
      ⟨(Literal.plain name).write ++ ' ' :: '.' :: r, asked⟩ =
      some ({ node := .known (.literal (.plain name)) }, ⟨'.' :: r, asked⟩) :=
    spaced_of_skip (t := ' ' :: '.' :: r) (orElse_left (bind_eq (readSlot_write name))) rfl
  have hpair : n.patterns.readPair n.patterns.readNode
      ⟨"schema:name ".toList ++ ((Literal.plain name).write ++ ' ' :: '.' :: r), asked⟩ =
      some ({ pairs := [(.path (.iri Vocabulary.name), [.known (.literal (.plain name))])] },
        ⟨'.' :: r, asked⟩) := by
    rw [Manner.readPair, bind_eq hproperty,
      bind_eq (separated_single hnode (spaced_none (mark_none rfl (by decide))))]
    rfl
  have hproperties : n.patterns.readProperties n.patterns.readNode
      ⟨"schema:name ".toList ++ ((Literal.plain name).write ++ ' ' :: '.' :: r), asked⟩ =
      some ({ pairs := [(.path (.iri Vocabulary.name), [.known (.literal (.plain name))])] },
        ⟨'.' :: r, asked⟩) := by
    have hmore : many (do
        spaced (mark ";")
        return (← optional (spaced (n.patterns.readPair n.patterns.readNode))).getD {})
        ⟨'.' :: r, asked⟩ = some ([], ⟨'.' :: r, asked⟩) :=
      (Repeats.stop (bind_eq_none (spaced_none (mark_none rfl (by decide))))).many
    rw [Manner.readProperties, bind_eq hpair, bind_eq hmore]
    rfl
  refine spaced_of_skip (t := '.' :: r) (orElse_left ?_) rfl
  rw [bind_eq readSubject_artist, bind_eq hproperties]
  rfl

theorem readGroup_songsForArtist (name : String) :
    n.around.around.groups.readGroup
      ⟨"\x7b\n?track a schema:MusicRecording ;\nschema:name ?songTitle ;\n".toList ++
        ("schema:byArtist ?artist .\n?artist schema:name ".toList ++
          ((Literal.plain name).write ++ (" .\n\x7d".toList ++ r))), asked⟩ =
      some ({ triples := { patterns := (songsForArtistQuery name).patterns },
              names := [track, track, songTitle, track, artist, artist] }, ⟨r, asked⟩) := by
  have hpoint : spaced (mark ".") ⟨".\n?artist schema:name ".toList ++
      ((Literal.plain name).write ++ (" .\n\x7d".toList ++ r)), asked⟩ =
      some ((), ⟨"?artist schema:name ".toList ++
        ((Literal.plain name).write ++ (" .\n\x7d".toList ++ r)), asked⟩) :=
    spaced_of_skip (t := "\n?artist schema:name ".toList ++
      ((Literal.plain name).write ++ (" .\n\x7d".toList ++ r))) rfl rfl
  have hlast : spaced (mark ".") ⟨'.' :: '\n' :: '}' :: r, asked⟩ =
      some ((), ⟨'}' :: r, asked⟩) :=
    spaced_of_skip (t := '\n' :: '}' :: r) rfl rfl
  have hmore : Repeats (spaced (mark ".") *> spaced n.around.around.patterns.readStatement)
      ⟨".\n?artist schema:name ".toList ++ ((Literal.plain name).write ++ (" .\n\x7d".toList ++ r)),
        asked⟩
      [{ patterns := [.having artist Vocabulary.name (.known (.literal (.plain name)))] }]
      ⟨'.' :: '\n' :: '}' :: r, asked⟩ := by
    refine .step ((bind_eq hpoint).trans (readStatement_artist n.around.around name)) ?_
      (.stop ((bind_eq hlast).trans (spaced_none (readStatement_closing n))))
    simp
    omega
  have hstatements : n.around.around.groups.readStatements
      ⟨"?track a schema:MusicRecording ;\nschema:name ?songTitle ;\n".toList ++
        ("schema:byArtist ?artist .\n?artist schema:name ".toList ++
          ((Literal.plain name).write ++ (" .\n\x7d".toList ++ r))), asked⟩ =
      some (.ofTriples { patterns := (songsForArtistQuery name).patterns }, ⟨'}' :: r, asked⟩) := by
    refine (bind_eq (separated_eq (readStatement_songs n) hmore)).trans ?_
    exact (bind_eq (optional_some hlast)).trans rfl
  have hnone : Repeats n.around.around.groups.readFurther ⟨'}' :: r, asked⟩
      (([] : List Expression).map fun e => (.group { conditions := [e] }, none))
      ⟨'}' :: r, asked⟩ := .stop readFurther_closing
  exact readGroup_eq rfl rfl rfl (readParts_eq hstatements rfl hnone)

theorem readModifiers_byTitle :
    n.around.expressions.readModifiers ⟨"ORDER BY ASC(?songTitle)\n".toList, asked⟩ =
      some ({ orderBy := [(.ascending, .unknown songTitle)] }, ⟨[], asked⟩) := by
  have htitle : spaced n.around.expressions.readSortKey ⟨"ASC(?songTitle)\n".toList, asked⟩ =
      some ((.ascending, .unknown songTitle), ⟨[], asked⟩) :=
    spaced_of_skip (readSortKey_ascending (readParenthesized_songTitle n)) rfl
  exact readModifiers_orderBy rfl
    (some1_eq htitle (.stop (spaced_none Inner.readSortKey_nil)))

theorem readProjection_titles :
    spaced inner.readProjection ⟨"SELECT ?songTitle\nWHERE ".toList ++ r, bothDeclared⟩ =
      some ((.columns [{ name := songTitle }], .kept), ⟨"WHERE ".toList ++ r, asked⟩) := by
  have hcolumns : some1 (spaced inner.readColumn) ⟨"?songTitle\nWHERE ".toList ++ r, asked⟩ =
      some ([{ name := songTitle }], ⟨"WHERE ".toList ++ r, asked⟩) := by
    cbv
  exact spaced_of_skip (readProjection_columns hcolumns) rfl

theorem toList_songsForArtistText (name : String) :
    (songsForArtistText name).toList =
      "PREFIX schema: <http://schema.org/>".toList ++ '\n' ::
        ("PREFIX xsd: <http://www.w3.org/2001/XMLSchema#>".toList ++ '\n' ::
          ("SELECT ?songTitle\nWHERE ".toList ++
            ("\x7b\n?track a schema:MusicRecording ;\nschema:name ?songTitle ;\n".toList ++
              ("schema:byArtist ?artist .\n?artist schema:name ".toList ++
                ((Literal.plain name).write ++ (" .\n\x7d".toList ++
                  "\nORDER BY ASC(?songTitle)\n".toList)))))) := by
  rw [songsForArtistText, Text.toList_lines]
  simp [prologue]

/-- A text with the name of an artist spells the query with this name. -/
theorem readForm_songsForArtistText (name : String) :
    n.around.around.around.readForm ⟨(songsForArtistText name).toList, {}⟩ =
      some (.rows (songsForArtistQuery name), ⟨[], bothDeclared⟩) := by
  have hend : Text.skipSpace false "\nORDER BY ASC(?songTitle)\n".toList =
      "ORDER BY ASC(?songTitle)\n".toList := rfl
  have hgroup := spaced_of_skip (readWhere_eq (readGroup_songsForArtist n name)) hend
  have hcolumns : checkColumns false ([track, track, songTitle, track, artist, artist] ++ [])
      [{ name := songTitle }] [] = some () := by decide
  rw [toList_songsForArtistText]
  refine readForm_eq rfl (readDeclarations_prologue rfl) rfl ?_
  exact readSelect_eq readProjection_titles (readDataset_where rfl) hgroup
    (readModifiers_byTitle _) (select_columns rfl hcolumns)

/-- The name of an artist may hold brackets, which only make the depth greater. -/
theorem exists_depthOf_songsForArtistText (name : String) :
    ∃ depth, depthOf (songsForArtistText name).toList = depth + 3 := by
  refine ⟨((Literal.plain name).write.filter
    fun c => c == '(' || c == '[' || c == '\x7b').length, ?_⟩
  rw [toList_songsForArtistText, depthOf]
  simp [List.filter_append]

theorem readQuery?_songsForArtistText (name : String) :
    readQuery? (songsForArtistText name) = some (.rows (songsForArtistQuery name)) := by
  obtain ⟨depth, hdepth⟩ := exists_depthOf_songsForArtistText name
  have hnested : Nested.ofDepth (depth + 3) = (Nested.ofDepth depth).around.around.around := rfl
  rw [readQuery?_eq, readChars?, hdepth, hnested, readForm_songsForArtistText]

end Names

end Songbook.Catalog
