import Songbook.Proofs.Catalog.Rows
import Songbook.Proofs.Outcome
import Songbook.Proofs.Sparql.Sorting
import Songbook.Proofs.Turtle.Numerals

/-!
# Columns of answers

The rows of an answer are read column by column. A literal is read as its text, and a whole
number that is not negative as that number; sorting compares them in the same way. A question
that sorts its rows is therefore answered with what its rows tell, sorted by that:
`mapM_select_eq`.
-/

namespace Songbook

open Rdf Sparql

namespace Catalog

variable {row : Row} {column : String}

theorem textIn_eq {l : Literal} (h : row.get? (.named column) = some (.literal l)) :
    textIn row column = .ok l.text := by
  simp [textIn, h]

theorem read?_toString {n : Nat} (h : n < Unsigned.bound) :
    Unsigned.read? (toString n).toList = some n := by
  have htext : (toString n).toList = Nat.toDigits 10 n := by simp [toString]
  rw [htext]
  exact Unsigned.read?_padded h 0

theorem numberIn_eq {n : Int64} (hn : 0 ≤ n.toInt)
    (h : row.get? (.named column) = some (.literal (.integer n))) :
    numberIn row column = .ok n.toInt.toNat := by
  have htext : (Literal.integer n).text = toString n.toInt.toNat := by
    have hcast : n.toInt = (n.toInt.toNat : Int) := (Int.toNat_of_nonneg hn).symm
    rw [Literal.text, hcast]
    rfl
  have hbound : n.toInt.toNat < Unsigned.bound := by
    have := n.toInt_lt
    unfold Unsigned.bound
    omega
  refine bind_eq_ok_iff.mpr ⟨_, textIn_eq h, ?_⟩
  rw [htext, read?_toString hbound]
  rfl

end Catalog

namespace Rdf

theorem orderMissing_plain (s t : String) :
    Term.orderMissing (some (.literal (.plain s))) (some (.literal (.plain t))) = compare s t := rfl

/-- Whole numbers that are not negative are sorted by their values. -/
theorem orderMissing_integer {m n : Int64} (hm : 0 ≤ m.toInt) (hn : 0 ≤ n.toInt) :
    Term.orderMissing (some (.literal (.integer m))) (some (.literal (.integer n))) =
      compare m.toInt.toNat n.toInt.toNat := by
  have horder : Term.orderMissing (some (.literal (.integer m))) (some (.literal (.integer n))) =
      compare m.toInt n.toInt := rfl
  have hlt : m.toInt < n.toInt ↔ m.toInt.toNat < n.toInt.toNat := by omega
  have hgt : n.toInt < m.toInt ↔ n.toInt.toNat < m.toInt.toNat := by omega
  rw [horder, Int.compare_eq_ite_lt, Nat.compare_eq_ite_lt]
  simp only [hlt, hgt]

end Rdf

namespace Catalog

variable {row : Row}

/-! ### Texts of rows -/

/-- The row has a plain text for an unknown. -/
def TellsText (v : Variable) (row : Row) : Prop :=
  ∃ s, row.get? v = some (.literal (.plain s))

/-- The plain text that a row has for an unknown. -/
def textOf (v : Variable) (row : Row) : String := ((row.get? v).bind plainText?).getD ""

theorem TellsText.get?_eq {v : Variable} (h : TellsText v row) :
    row.get? v = some (.literal (.plain (textOf v row))) := by
  obtain ⟨s, hs⟩ := h
  simp [textOf, hs, plainText?]

theorem get?_restrict {vs : List Variable} {v : Variable} (hv : v ∈ vs) :
    (row.restrict vs).get? v = row.get? v := by
  -- the induction is on the columns; a column that the row lacks is left out
  induction vs with
  | nil => cases hv
  | cons u us ih =>
    rw [Row.restrict, List.filterMap_cons]
    by_cases huv : v = u
    · subst huv
      cases hget : row.get? v with
      | none =>
        by_cases hmem : v ∈ us
        · exact (ih hmem).trans hget
        · change List.lookup v (us.filterMap fun u => (row.get? u).map (u, ·)) = none
          rw [List.lookup_eq_none_iff]
          intro p hp
          obtain ⟨u, hu, hpair⟩ := List.mem_filterMap.mp hp
          obtain ⟨t, _, rfl⟩ := Option.map_eq_some_iff.mp hpair
          simpa using fun heq : v = u => hmem (heq ▸ hu)
      | some t => simp [Row.get?]
    · have hmem : v ∈ us := (List.mem_cons.mp hv).resolve_left huv
      cases hget : row.get? u with
      | none => exact ih hmem
      | some t =>
        refine Eq.trans ?_ (ih hmem)
        have hbeq : (v == u) = false := by simpa using huv
        simp [Row.get?, Row.restrict, List.lookup_cons, hbeq]

/-- The row has a literal for an unknown, of whatever kind. -/
def TellsLiteral (v : Variable) (row : Row) : Prop :=
  ∃ l, row.get? v = some (.literal l)

/-- The text of the literal that a row has for an unknown. -/
def writtenOf (v : Variable) (row : Row) : String := ((row.get? v).bind literalText?).getD ""

theorem TellsText.literal {v : Variable} (h : TellsText v row) : TellsLiteral v row :=
  ⟨_, h.get?_eq⟩

theorem TellsText.writtenOf_eq {v : Variable} (h : TellsText v row) :
    writtenOf v row = textOf v row := by
  rw [writtenOf, h.get?_eq]
  rfl

/-- A column is read where it has a literal, as the text of the literal. -/
theorem textIn_restrict_eq_ok_iff {vs : List Variable} {column s : String}
    (hcolumn : .named column ∈ vs) :
    textIn (row.restrict vs) column = .ok s ↔
      TellsLiteral (.named column) row ∧ writtenOf (.named column) row = s := by
  have hget : (row.restrict vs).get? (.named column) = row.get? (.named column) :=
    get?_restrict hcolumn
  unfold textIn TellsLiteral writtenOf
  rw [hget]
  cases row.get? (.named column) with
  | none => simp
  | some o =>
    cases o with
    | node n => simp
    | literal l => simp [literalText?]

theorem textIn_restrict {vs : List Variable} {column : String} (hcolumn : .named column ∈ vs)
    (h : TellsText (.named column) row) :
    textIn (row.restrict vs) column = .ok (textOf (.named column) row) :=
  (textIn_restrict_eq_ok_iff hcolumn).mpr ⟨h.literal, h.writtenOf_eq⟩

theorem orderBy_ascending {v : Variable} {a b : Row} (ha : TellsText v a) (hb : TellsText v b) :
    Direction.ascending.orderBy (.unknown v) a b = compare (textOf v a) (textOf v b) := by
  simp [Direction.orderBy, Expression.value?, ha.get?_eq, hb.get?_eq, orderMissing_plain]

/-! ### Answers -/

theorem select_eq_run {text : String} {q : Query} (htext : readQuery? text = some (.rows q))
    (g : Graph) : g.select text = .ok (q.run g) := by
  rw [Graph.select, htext]

/-- A question that sorts its rows is answered with the columns of the sorted rows. -/
theorem select_eq_map_sortRows {g : Graph} {text : String} {q : Query} {rows : List Row}
    (htext : readQuery? text = some (.rows q)) (hrows : (q.collected g).map q.withColumns = rows)
    (horderBy : q.orderBy ≠ []) (hoffset : q.offset = 0) (hkept : q.repetition = .kept) :
    g.select text = .ok ((q.limit.elim id List.take (sortRows (orderRows q.orderBy) rows)).map
      (Row.restrict (q.columns.map Column.name))) := by
  rw [select_eq_run htext, Query.run, hrows, Query.sorted, if_neg horderBy, Query.projected, hkept,
    Query.limited, hoffset, Repetition.apply]
  cases q.limit <;> simp

theorem mem_of_mem_take_sortRows {limit : Option Nat} {order : Row → Row → Ordering}
    {rows : List Row} {row : Row} (h : row ∈ limit.elim id List.take (sortRows order rows)) :
    row ∈ rows := by
  refine (sortRows_perm order rows).mem_iff.mp ?_
  cases limit with
  | none => exact h
  | some n => exact List.mem_of_mem_take h

/-- Rows that are sorted are read one by one, in the order of what they tell. -/
theorem mapM_select_eq {κ α : Type} {g : Graph} {text : String} {q : Query} {rows : List Row}
    (htext : readQuery? text = some (.rows q)) (hrows : (q.collected g).map q.withColumns = rows)
    (horderBy : q.orderBy ≠ []) (hoffset : q.offset = 0) (hkept : q.repetition = .kept)
    (read : Row → Except Error α) {told : Row → κ} {readTold : κ → Except Error α}
    {cmp : κ → κ → Ordering} [Std.TransCmp cmp] [Std.LawfulEqCmp cmp]
    (horder : ∀ a ∈ rows, ∀ b ∈ rows, orderRows q.orderBy a b = cmp (told a) (told b))
    (hread : ∀ row ∈ rows, read (row.restrict (q.columns.map Column.name)) = readTold (told row)) :
    (g.select text >>= fun rows => rows.mapM read) =
      (q.limit.elim id List.take (sortedBy cmp (rows.map told))).mapM readTold := by
  let sorted := sortRows (orderRows q.orderBy) rows
  have hsorted : sorted.map told = sortedBy cmp (rows.map told) := map_sortRows horder
  have hmapped : (q.limit.elim id List.take (sortedBy cmp (rows.map told))) =
      (q.limit.elim id List.take sorted).map told := by
    rw [← hsorted]
    cases q.limit <;> simp
  have hselect := select_eq_map_sortRows htext hrows horderBy hoffset hkept
  refine (congrArg (· >>= fun rows => rows.mapM read) hselect).trans ?_
  change List.mapM read (List.map _ (q.limit.elim id List.take sorted)) = _
  rw [hmapped, List.mapM_map, List.mapM_map]
  exact mapM_congr fun row hrow => hread row (mem_of_mem_take_sortRows hrow)

/-- A query that sorts its matching rows and cuts them down to columns, and does no more. -/
structure ListsRows (q : Query) : Prop where
  grouping : q.grouping = none
  having : q.having = []
  orderBy : q.orderBy ≠ []
  columns : ∀ c ∈ q.columns, c.source = none
  offset : q.offset = 0

/-- Columns that are all matched add nothing to a row. -/
theorem withColumns_eq_self {q : Query} (h : ∀ c ∈ q.columns, c.source = none) (row : Row) :
    q.withColumns row = row := by
  unfold Query.withColumns
  generalize q.columns = columns at h
  induction columns with
  | nil => rfl
  | cons c columns ih =>
    rw [List.foldl_cons, h c (by simp)]
    exact ih fun c hc => h c (by simp [hc])

theorem ListsRows.map_collected {q : Query} (h : ListsRows q) (g : Graph) :
    (q.collected g).map q.withColumns = q.matching g := by
  have hcolumns : q.withColumns = id := funext (withColumns_eq_self h.columns)
  simp [Query.collected, h.grouping, h.having, hcolumns]

/-- A question is answered with what its rows tell, in the order of what they tell. -/
theorem select_eq_ok {α : Type} {g : Graph} {text : String} {q : Query}
    (htext : readQuery? text = some (.rows q)) (hlists : ListsRows q)
    (hkept : q.repetition = .kept) (read : Row → Except Error α) (told : Row → α)
    (cmp : α → α → Ordering) [Std.TransCmp cmp] [Std.LawfulEqCmp cmp]
    (horder : ∀ a ∈ q.matching g, ∀ b ∈ q.matching g,
      orderRows q.orderBy a b = cmp (told a) (told b))
    (hread : ∀ row ∈ q.matching g,
      read (row.restrict (q.columns.map Column.name)) = .ok (told row)) :
    (g.select text >>= fun rows => rows.mapM read) =
      .ok (q.limit.elim id List.take (sortedBy cmp ((q.matching g).map told))) := by
  have hok : ∀ answers : List α, answers.mapM (Except.ok (ε := Error)) = .ok answers :=
    fun answers => (mapM_eq_ok (g := id) fun _ _ => rfl).trans (by rw [List.map_id])
  rw [mapM_select_eq htext (hlists.map_collected g) hlists.orderBy hlists.offset hkept read horder
    hread, hok]

/-! ### Answers in some order -/

/-- A question is answered with what its rows tell, also where the order of the rows is none that
values have. -/
theorem exists_rows_of_select {α : Type} {g : Graph} {text : String} {q : Query}
    (htext : readQuery? text = some (.rows q)) (hlists : ListsRows q)
    (hkept : q.repetition = .kept) (read : Row → Except Error α) (told : Row → α)
    (hread : ∀ row ∈ q.matching g,
      read (row.restrict (q.columns.map Column.name)) = .ok (told row)) :
    ∃ rows, rows.Perm (q.matching g) ∧ (g.select text >>= fun rows => rows.mapM read) =
      .ok ((q.limit.elim id List.take rows).map told) := by
  refine ⟨_, sortRows_perm (orderRows q.orderBy) (q.matching g), ?_⟩
  have hselect := select_eq_map_sortRows htext (hlists.map_collected g) hlists.orderBy
    hlists.offset hkept
  refine bind_eq_ok_iff.mpr ⟨_, hselect, ?_⟩
  rw [List.mapM_map]
  exact mapM_eq_ok fun row hrow => hread row (mem_of_mem_take_sortRows hrow)

/-- Every row of a question without a limit is read if the question is answered. -/
theorem exists_mem_of_select {α : Type} {g : Graph} {text : String} {q : Query}
    (htext : readQuery? text = some (.rows q)) (hlists : ListsRows q)
    (hkept : q.repetition = .kept) (hlimit : q.limit = none) {read : Row → Except Error α}
    {answers : List α} (h : (g.select text >>= fun rows => rows.mapM read) = .ok answers)
    {row : Row} (hrow : row ∈ q.matching g) :
    ∃ a ∈ answers, read (row.restrict (q.columns.map Column.name)) = .ok a := by
  have hselect := select_eq_map_sortRows htext (hlists.map_collected g) hlists.orderBy
    hlists.offset hkept
  obtain ⟨rows, hrows, hread⟩ := bind_eq_ok_iff.mp h
  rw [hselect, hlimit] at hrows
  cases hrows
  refine exists_mem_of_mapM hread (List.mem_map_of_mem ?_)
  exact (sortRows_perm (orderRows q.orderBy) (q.matching g)).mem_iff.mpr hrow

/-- Where the rows match that match another graph, the answer is the same. -/
theorem select_eq_of_matching_eq {g h : Graph} {text : String} {q : Query}
    (htext : readQuery? text = some (.rows q)) (hrows : q.matching g = q.matching h) :
    g.select text = h.select text := by
  have hcollected : q.collected g = q.collected h := by
    rw [Query.collected, Query.collected, hrows]
  rw [select_eq_run htext, select_eq_run htext, Query.run, Query.run, hcollected]

end Catalog

end Songbook
