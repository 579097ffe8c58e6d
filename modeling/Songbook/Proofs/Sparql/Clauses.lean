import Songbook.Proofs.Sparql.Operators

/-!
# Clauses of queries

A query for rows declares names, says what it asks for, gives a group in braces, and may order
the rows. The lemmas here put these clauses together, given what the reader makes of the
statements and the expressions in them.
-/

namespace Songbook.Sparql

open Rdf Reader

variable {scope scope' : Scope} {s s' s₁ s₂ s₃ : Source} {e : Expression} {r r' : List Char}
variable {n : Nested}

/-! ### Declarations -/

/-- A declaration at the front. -/
def readDeclaration : Reader Unit :=
  (do
    spaced (keyword "base")
    let i ← readReference
    setScope fun known => { known with base := some i }) <|>
  (do
    spaced (keyword "prefix")
    let space ← spaced readSpace
    let i ← readReference
    setScope fun known => { known with spaces := (space, i) :: known.spaces })

theorem readDeclarations_eq {us : List Unit} (h : Repeats (spaced readDeclaration) s us s') :
    readDeclarations s = some ((), s') :=
  bind_eq h.many

theorem readDeclaration_prefix {space : List Char} {i : Iri}
    (hspace : spaced readSpace ⟨r, scope⟩ = some (space, s)) (hskip : Text.skipSpace false r = r)
    (hreference : readReference s = some (i, ⟨r', scope⟩)) :
    readDeclaration ⟨"PREFIX ".toList ++ r, scope⟩ =
      some ((), ⟨r', { scope with spaces := (space, i) :: scope.spaces }⟩) := by
  have hbase : spaced (keyword "base") ⟨"PREFIX ".toList ++ r, scope⟩ = none :=
    spaced_none (keyword_none rfl (by decide))
  have hword : spaced (keyword "prefix") ⟨"PREFIX ".toList ++ r, scope⟩ = some ((), ⟨r, scope⟩) :=
    spaced_of_skip (t := ' ' :: r) rfl hskip
  rw [readDeclaration, orElse_right (bind_eq_none hbase), bind_eq hword, bind_eq hspace,
    bind_eq hreference]
  rfl

theorem readDeclaration_select : readDeclaration ⟨'S' :: r, scope⟩ = none := by
  rw [readDeclaration, orElse_right (bind_eq_none (spaced_none (keyword_none rfl (by decide)))),
    bind_eq_none (spaced_none (keyword_none rfl (by decide)))]

/-! ### Groups -/

/-- A part of a group that is not made of triples, and what statements follow it. -/
def GroupInner.readFurther (inner : GroupInner) : Reader (GroupPart × Option GroupPattern) := do
  let part ← spaced inner.readPart
  let _ ← optional (spaced (mark "."))
  let statements ← optional inner.readStatements
  blanks
  return (part, statements)

theorem readAlternatives_none {c : Char} (hc : c ≠ '\x7b') :
    n.around.groups.readAlternatives ⟨c :: r, scope⟩ = none := by
  have hgroup : n.groups.readGroup ⟨c :: r, scope⟩ = none := by
    rw [GroupInner.readGroup, orElse_right (between_none (mark_none rfl hc)),
      between_none (mark_none rfl hc)]
  exact bind_eq_none (bind_eq_none (spaced_none hgroup))

theorem readAfter_none {inner : GroupInner} {word : String} {c d : Char} {cs : List Char}
    (hword : word.toList = d :: cs) (hne : c.toLower ≠ d) :
    inner.readAfter word ⟨c :: r, scope⟩ = none :=
  bind_eq_none (spaced_none (keyword_none hword hne))

theorem readElsewhere_none {inner : GroupInner} {c : Char} (hg : c.toLower ≠ 'g')
    (hs : c.toLower ≠ 's') : inner.readElsewhere ⟨c :: r, scope⟩ = none := by
  rw [GroupInner.readElsewhere, orElse_right (bind_eq_none (spaced_none (keyword_none rfl hg))),
    bind_eq_none (spaced_none (keyword_none rfl hs))]

theorem readPart_filter
    (h : n.around.expressions.readParenthesized ⟨'(' :: r, scope⟩ = some (e, s')) :
    n.around.groups.readPart ⟨"FILTER (".toList ++ r, scope⟩ =
      some (.group { conditions := [e] }, s') := by
  have hfront : "FILTER (".toList ++ r = 'F' :: ("ILTER (".toList ++ r) := rfl
  have hnested : (n.around.groups.readAfter "optional" <|> n.around.groups.readAfter "lateral")
      ⟨'F' :: ("ILTER (".toList ++ r), scope⟩ = none := by
    rw [orElse_right (readAfter_none rfl (by decide)), readAfter_none rfl (by decide)]
  have hword : spaced (keyword "filter") ⟨'F' :: ("ILTER (".toList ++ r), scope⟩ =
      some ((), ⟨'(' :: r, scope⟩) :=
    spaced_of_skip (t := " (".toList ++ r) rfl rfl
  have hconstraint : n.around.groups.expressions.readConstraint ⟨'(' :: r, scope⟩ = some (e, s') :=
    orElse_left h
  rw [hfront, GroupInner.readPart, orElse_right (bind_eq_none (readAlternatives_none (by decide))),
    orElse_right (bind_eq_none hnested),
    orElse_right (bind_eq_none (readAfter_none rfl (by decide))),
    orElse_right (bind_eq_none (readElsewhere_none (by decide) (by decide)))]
  refine orElse_left ?_
  rw [bind_eq hword, bind_eq hconstraint]
  rfl

theorem readPart_closing : n.around.groups.readPart ⟨'}' :: r, scope⟩ = none := by
  have hnested : (n.around.groups.readAfter "optional" <|> n.around.groups.readAfter "lateral")
      ⟨'}' :: r, scope⟩ = none := by
    rw [orElse_right (readAfter_none rfl (by decide)), readAfter_none rfl (by decide)]
  have hbinding : n.around.groups.readBinding ⟨'}' :: r, scope⟩ = none :=
    bind_eq_none (spaced_none (keyword_none rfl (by decide)))
  rw [GroupInner.readPart, orElse_right (bind_eq_none (readAlternatives_none (by decide))),
    orElse_right (bind_eq_none hnested),
    orElse_right (bind_eq_none (readAfter_none rfl (by decide))),
    orElse_right (bind_eq_none (readElsewhere_none (by decide) (by decide))),
    orElse_right (bind_eq_none (spaced_none (keyword_none rfl (by decide)))),
    orElse_right (bind_eq_none hbinding),
    bind_eq_none (spaced_none (keyword_none rfl (by decide)))]

theorem readFurther_eq {inner : GroupInner} {part : GroupPart} {c : Char}
    (hpart : spaced inner.readPart s = some (part, ⟨c :: r, scope⟩)) (hpoint : c ≠ '.')
    (hstatements : inner.readStatements ⟨c :: r, scope⟩ = none)
    (hskip : Text.skipSpace false (c :: r) = c :: r) :
    inner.readFurther s = some ((part, none), ⟨c :: r, scope⟩) := by
  have hblanks : blanks ⟨c :: r, scope⟩ = some ((), ⟨c :: r, scope⟩) := by
    rw [blanks, ofChars, hskip]
    rfl
  rw [GroupInner.readFurther, bind_eq hpart,
    bind_eq (optional_none (spaced_none (mark_none rfl hpoint))), bind_eq (optional_none hstatements),
    bind_eq hblanks]
  rfl

theorem readFurther_closing : n.around.groups.readFurther ⟨'}' :: r, scope⟩ = none :=
  bind_eq_none (spaced_none readPart_closing)

/-- A group with one more part and the statements behind it. -/
def GroupPattern.addFurther (g : GroupPattern) :
    GroupPart × Option GroupPattern → Reader GroupPattern
  | (part, statements) => do return (← g.addPart part).add (statements.getD {})

theorem foldlM_addFurther (conditions : List Expression) (g : GroupPattern) :
    (List.foldlM GroupPattern.addFurther g
      (conditions.map fun e => (.group { conditions := [e] }, none)) : Reader GroupPattern) s =
      some ({ g with conditions := g.conditions ++ conditions }, s) := by
  induction conditions generalizing g with
  | nil =>
    rw [List.append_nil]
    rfl
  | cons e es ih =>
    have hadd : (g.add { conditions := [e] }).add {} =
        { g with conditions := g.conditions ++ [e] } := by
      obtain ⟨⟨patterns, complete⟩, conditions, names⟩ := g
      change GroupPattern.mk ⟨patterns ++ [] ++ [], complete && true && true⟩
        (conditions ++ [e] ++ []) (names ++ [] ++ []) = _
      simp
    rw [List.map_cons, List.foldlM_cons]
    refine (bind_eq (t := s) (a := (g.add { conditions := [e] }).add {}) rfl).trans ?_
    rw [hadd, ih]
    simp

/-- The parts of a group are statements, and conditions behind them. -/
theorem readParts_eq {inner : GroupInner} {first : GroupPattern} {conditions : List Expression}
    {c : Char} (hfirst : inner.readStatements s = some (first, ⟨c :: r, scope⟩))
    (hskip : Text.skipSpace false (c :: r) = c :: r)
    (hmore : Repeats inner.readFurther ⟨c :: r, scope⟩
      (conditions.map fun e => (.group { conditions := [e] }, none)) s') :
    inner.readParts s =
      some ({ first with conditions := first.conditions ++ conditions }, s') := by
  have hblanks : blanks ⟨c :: r, scope⟩ = some ((), ⟨c :: r, scope⟩) := by
    rw [blanks, ofChars, hskip]
    rfl
  refine (bind_eq (optional_some hfirst)).trans ((bind_eq hblanks).trans ?_)
  exact (bind_eq hmore.many).trans (foldlM_addFurther conditions first)

/-- Labels are spent without effect where there are none. -/
theorem spendLabels_eq (h : scope.labels = []) :
    spendLabels ⟨r, scope⟩ = some ((), ⟨r, scope⟩) := by
  obtain ⟨base, spaces, labels, spent, fresh, aggregates⟩ := scope
  cases h
  rfl

theorem readGroup_eq {inner : GroupInner} {g : GroupPattern} (hlabels : scope.labels = [])
    (hlabels' : scope'.labels = [])
    (hskip : Text.skipSpace false r = r)
    (h : inner.readParts ⟨r, scope⟩ = some (g, ⟨'}' :: r', scope'⟩)) :
    inner.readGroup ⟨'\x7b' :: '\n' :: r, scope⟩ = some (g, ⟨r', scope'⟩) := by
  have hopening : spaced (mark "\x7b") ⟨'\x7b' :: '\n' :: r, scope⟩ = some ((), ⟨r, scope⟩) :=
    spaced_of_skip (t := '\n' :: r) rfl hskip
  have hparts : (do
      spendLabels
      let g ← inner.readParts
      spendLabels
      return g) ⟨r, scope⟩ = some (g, ⟨'}' :: r', scope'⟩) := by
    rw [bind_eq (spendLabels_eq hlabels), bind_eq h, bind_eq (spendLabels_eq hlabels')]
    rfl
  refine orElse_left ?_
  rw [between_eq hopening (spaced_of_skip hparts rfl)]
  rfl

theorem readWhere_eq {group : Reader GroupPattern} {g : GroupPattern}
    (h : group ⟨'\x7b' :: r, scope⟩ = some (g, s')) :
    readWhere group ⟨"WHERE \x7b".toList ++ r, scope⟩ = some (g, s') := by
  have hword : spaced (keyword "where") ⟨"WHERE \x7b".toList ++ r, scope⟩ =
      some ((), ⟨'\x7b' :: r, scope⟩) :=
    spaced_of_skip (t := " \x7b".toList ++ r) rfl rfl
  rw [readWhere, bind_eq (optional_some hword), h]

/-! ### Orders -/

section Orders

variable {inner : Inner}

theorem readSortKey_ascending
    (h : inner.readParenthesized ⟨'(' :: r, scope⟩ = some (e, s')) :
    inner.readSortKey ⟨"ASC(".toList ++ r, scope⟩ = some ((.ascending, e), s') := by
  have hword : spaced (keyword "asc") ⟨"ASC(".toList ++ r, scope⟩ = some ((), ⟨'(' :: r, scope⟩) :=
    spaced_of_skip (t := '(' :: r) rfl rfl
  refine orElse_left ?_
  rw [bind_eq hword, bind_eq h]
  rfl

theorem readSortKey_descending
    (h : inner.readParenthesized ⟨'(' :: r, scope⟩ = some (e, s')) :
    inner.readSortKey ⟨"DESC(".toList ++ r, scope⟩ = some ((.descending, e), s') := by
  have hfront : "DESC(".toList ++ r = 'D' :: ("ESC(".toList ++ r) := rfl
  have hword : spaced (keyword "desc") ⟨'D' :: ("ESC(".toList ++ r), scope⟩ =
      some ((), ⟨'(' :: r, scope⟩) :=
    spaced_of_skip (t := '(' :: r) rfl rfl
  rw [hfront, Inner.readSortKey,
    orElse_right (bind_eq_none (spaced_none (keyword_none rfl (by decide))))]
  refine orElse_left ?_
  rw [bind_eq hword, bind_eq h]
  rfl

theorem readModifiers_orderBy {keys : List (Direction × Expression)}
    (hskip : Text.skipSpace false r = r)
    (hkeys : some1 (spaced inner.readSortKey) ⟨r, scope⟩ = some (keys, ⟨[], scope'⟩)) :
    inner.readModifiers ⟨"ORDER BY ".toList ++ r, scope⟩ =
      some ({ orderBy := keys }, ⟨[], scope'⟩) := by
  have hfront : "ORDER BY ".toList ++ r = 'O' :: ("RDER BY ".toList ++ r) := rfl
  have hblanks : blanks ⟨'O' :: ("RDER BY ".toList ++ r), scope⟩ =
      some ((), ⟨'O' :: ("RDER BY ".toList ++ r), scope⟩) := rfl
  have hend : blanks ⟨[], scope'⟩ = some ((), ⟨[], scope'⟩) := rfl
  have horder : spaced (keyword "order") ⟨'O' :: ("RDER BY ".toList ++ r), scope⟩ =
      some ((), ⟨"BY ".toList ++ r, scope⟩) :=
    spaced_of_skip (t := " BY ".toList ++ r) rfl rfl
  have hby : spaced (keyword "by") ⟨"BY ".toList ++ r, scope⟩ = some ((), ⟨r, scope⟩) :=
    spaced_of_skip (t := ' ' :: r) rfl hskip
  have hkeys' : (do
      spaced (keyword "order")
      spaced (keyword "by")
      some1 (spaced inner.readSortKey)) ⟨'O' :: ("RDER BY ".toList ++ r), scope⟩ =
      some (keys, ⟨[], scope'⟩) := by
    rw [bind_eq horder, bind_eq hby, hkeys]
  have hbounds : Inner.readBounds ⟨[], scope'⟩ = none := rfl
  have htable : (do
      spaced (keyword "values")
      readTable) ⟨[], scope'⟩ = none := rfl
  rw [hfront, Inner.readModifiers,
    bind_eq (optional_none (bind_eq_none (spaced_none (keyword_none rfl (by decide))))),
    bind_eq hblanks,
    bind_eq (optional_none (bind_eq_none (spaced_none (keyword_none rfl (by decide))))),
    bind_eq hblanks, bind_eq (optional_some hkeys'), bind_eq hend,
    bind_eq (optional_none hbounds), bind_eq hend, bind_eq (optional_none htable)]
  rfl

end Orders

/-! ### Queries for rows -/

section Rows

variable {inner : Inner} {columns : List Column}

/-- What is asked for are names, and rows that are the same are kept. -/
theorem readProjection_columns
    (h : some1 (spaced inner.readColumn)
      ⟨'?' :: r, { scope with aggregates := [] :: scope.aggregates }⟩ = some (columns, s')) :
    inner.readProjection ⟨"SELECT ?".toList ++ r, scope⟩ =
      some ((.columns columns, .kept), s') := by
  have hword : spaced (keyword "select") ⟨"SELECT ?".toList ++ r, scope⟩ =
      some ((), ⟨'?' :: r, scope⟩) :=
    spaced_of_skip (t := " ?".toList ++ r) rfl rfl
  have hset : setScope (fun known => { known with aggregates := [] :: known.aggregates })
      ⟨'?' :: r, scope⟩ =
      some ((), ⟨'?' :: r, { scope with aggregates := [] :: scope.aggregates }⟩) := rfl
  have hrepetition : ∀ scope : Scope, spaced Inner.readRepetition ⟨'?' :: r, scope⟩ =
      some (.kept, ⟨'?' :: r, scope⟩) := by
    intro scope
    refine spaced_of_skip (t := '?' :: r) ?_ rfl
    rw [Inner.readRepetition, orElse_right (bind_eq_none (keyword_none rfl (by decide))),
      orElse_right (bind_eq_none (keyword_none rfl (by decide)))]
    rfl
  have hall : mark "*" ⟨'?' :: r, { scope with aggregates := [] :: scope.aggregates }⟩ = none :=
    mark_none rfl (by decide)
  have hcolumns : ((do mark "*"; return .all) <|>
      (do return .columns (← some1 (spaced inner.readColumn))) : Reader Projection)
      ⟨'?' :: r, { scope with aggregates := [] :: scope.aggregates }⟩ =
      some (.columns columns, s') := by
    rw [orElse_right (bind_eq_none hall), bind_eq h]
    rfl
  rw [Inner.readProjection, bind_eq hword, bind_eq hset, bind_eq (hrepetition _), bind_eq hcolumns]
  rfl

theorem readDataset_where (hr : r.head? = some 'W') :
    spaced Inner.readDataset ⟨r, scope⟩ = some ([], ⟨r, scope⟩) := by
  obtain ⟨t, rfl⟩ := List.head?_eq_some_iff.1 hr
  have hfrom : spaced (keyword "from") ⟨'W' :: t, scope⟩ = none :=
    spaced_none (keyword_none rfl (by decide))
  exact spaced_of_skip (Repeats.stop (spaced_none (bind_eq_none hfrom))).many rfl

theorem select_columns {g : GroupPattern} {keys : List (Direction × Expression)}
    (haggregates : scope.aggregates = [[]])
    (hcolumns : checkColumns false (g.names ++ []) columns [] = some ()) :
    select (.columns columns) .kept g { orderBy := keys } ⟨r, scope⟩ =
      some (({ columns, patterns := g.triples.patterns, conditions := g.conditions, orderBy := keys },
        g.triples.complete && true), ⟨r, { scope with aggregates := [] }⟩) := by
  obtain ⟨base, spaces, labels, spent, fresh, aggregates⟩ := scope
  cases haggregates
  rw [select]
  refine (bind_eq (t := ⟨r, ⟨base, spaces, labels, spent, fresh, [[]]⟩⟩) rfl).trans ?_
  refine (bind_eq (t := ⟨r, ⟨base, spaces, labels, spent, fresh, []⟩⟩) rfl).trans ?_
  refine (bind_eq (t := ⟨r, ⟨base, spaces, labels, spent, fresh, []⟩⟩) (a := none) rfl).trans ?_
  dsimp only [Option.isSome_none, Option.getD_none]
  rw [hcolumns]
  rfl

theorem readSelect_eq {group : Reader GroupPattern} {dataset : Reader (List Iri)}
    {projection : Projection} {repetition : Repetition} {graphs : List Iri} {g : GroupPattern}
    {m : Modifiers} {q : Query} {answered : Bool} {s₄ : Source}
    (hprojection : spaced inner.readProjection s = some ((projection, repetition), s₁))
    (hdataset : spaced dataset s₁ = some (graphs, s₂))
    (hgroup : spaced (readWhere group) s₂ = some (g, s₃))
    (hmodifiers : inner.readModifiers s₃ = some (m, s₄))
    (hselect : select projection repetition g m s₄ = some ((q, answered), s')) :
    readSelect inner group dataset s = some (({ q with graphs }, answered), s') := by
  rw [readSelect, bind_eq hprojection]
  refine (bind_eq hdataset).trans ?_
  rw [bind_eq hgroup, bind_eq hmodifiers, bind_eq hselect]
  rfl

theorem readForm_eq {q : Query} (hskip : Text.skipSpace false s.rest = s.rest)
    (hdeclarations : readDeclarations s = some ((), s₁))
    (hskip' : Text.skipSpace false s₁.rest = s₁.rest)
    (hselect : readSelect n.expressions n.group Inner.readDataset s₁ =
      some ((q, true), ⟨[], scope⟩)) :
    n.readForm s = some (.rows q, ⟨[], scope⟩) := by
  have hblanks : ∀ s : Source, Text.skipSpace false s.rest = s.rest →
      blanks s = some ((), s) := by
    intro s h
    rw [blanks, ofChars, h]
    rfl
  have hrows : ((do
      let read ← readSelect n.expressions n.group Inner.readDataset
      return if read.2 then .rows read.1 else .unanswered) <|>
      n.readConstruct <|> n.readDescribe <|> n.readAsk) s₁ = some (.rows q, ⟨[], scope⟩) := by
    refine orElse_left ?_
    rw [bind_eq hselect]
    rfl
  rw [Nested.readForm, bind_eq (hblanks s hskip), bind_eq hdeclarations,
    bind_eq (hblanks s₁ hskip'), bind_eq hrows]
  rfl

end Rows

end Songbook.Sparql
