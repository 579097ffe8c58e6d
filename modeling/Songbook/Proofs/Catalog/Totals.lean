import Songbook.Proofs.Catalog.Songs

/-!
# Totals

Two questions are answered with one number: the sum of all lengths that count and the number of
recordings. The sum is computed in words of 64 bits. As no length is negative, the order of the
additions does not matter: the sum is answered if it fits into a word, and it is missing and
shown as zero otherwise.
-/

namespace Songbook

open Rdf Sparql Catalog

/-! ### Sums of words -/

/-- One word more, if the total still fits into a word. -/
def addWord (total n : Int64) : Option Int64 :=
  if Literal.fitsWord (total.toInt + n.toInt) then some (Int64.ofInt (total.toInt + n.toInt))
  else none

theorem addWord_ofNat {k : Nat} (hk : k < 2 ^ 63) {n : Int64} (hn : 0 ≤ n.toInt) :
    addWord (Int64.ofNat k) n =
      if k + n.toInt.toNat < 2 ^ 63 then some (Int64.ofNat (k + n.toInt.toNat)) else none := by
  obtain ⟨m, hm⟩ := Int.eq_ofNat_of_zero_le hn
  have hnext : (Int64.ofNat k).toInt + n.toInt = ((k + m : Nat) : Int) := by
    rw [Int64.toInt_ofNat_of_lt hk, hm]
    omega
  have hword : Int64.ofInt ((k + m : Nat) : Int) = Int64.ofNat (k + m) := rfl
  have hfits : Literal.fitsWord ((k + m : Nat) : Int) = decide (k + m < 2 ^ 63) := by
    rw [Bool.eq_iff_iff]
    simp only [Literal.fitsWord, Bool.and_eq_true, decide_eq_true_eq]
    omega
  rw [addWord, hnext, hfits, hword, hm, Int.toNat_natCast]
  simp only [decide_eq_true_eq]

/-- Words that are not negative add up as long as their sum fits into a word. -/
theorem foldlM_addWord {ns : List Int64} (h : ∀ n ∈ ns, 0 ≤ n.toInt) {k : Nat}
    (hk : k < 2 ^ 63) :
    ns.foldlM addWord (Int64.ofNat k) =
      if k + (ns.map (·.toInt.toNat)).sum < 2 ^ 63 then
        some (Int64.ofNat (k + (ns.map (·.toInt.toNat)).sum))
      else none := by
  induction ns generalizing k with
  | nil =>
    rw [List.map_nil, List.sum_nil, Nat.add_zero, if_pos hk]
    rfl
  | cons n ns ih =>
    rw [List.foldlM_cons, addWord_ofNat hk (h n (by simp)), List.map_cons, List.sum_cons,
      ← Nat.add_assoc]
    by_cases hnext : k + n.toInt.toNat < 2 ^ 63
    · rw [if_pos hnext]
      exact ih (fun n hn => h n (by simp [hn])) hnext
    · have hsum : ¬ k + n.toInt.toNat + (ns.map (·.toInt.toNat)).sum < 2 ^ 63 := by omega
      rw [if_neg hnext, if_neg hsum]
      rfl

/-- The sum of words that are not negative, if it fits into a word. -/
theorem sumWords_eq {ns : List Int64} (h : ∀ n ∈ ns, 0 ≤ n.toInt) :
    sumWords ns = if (ns.map (·.toInt.toNat)).sum < 2 ^ 63 then
      some (Int64.ofNat (ns.map (·.toInt.toNat)).sum) else none := by
  have hsum := foldlM_addWord h (k := 0) (by decide)
  rw [Nat.zero_add] at hsum
  exact hsum

namespace Graph

/-- The lengths of all recordings that count. -/
def allLengths (g : Graph) : List Nat := g.recordings.flatMap g.lengths

theorem nodup_recordings {g : Graph} : g.recordings.Nodup := nodup_subjects

end Graph

namespace Catalog

variable {g : Graph}

theorem exists_words (ds : List Term) :
    ∃ ns : List Int64, (ds.filter fun d => (lengthOf? d).isSome).mapM wordOf? = some ns ∧
      (∀ n ∈ ns, 0 ≤ n.toInt) ∧ ns.map (·.toInt.toNat) = ds.filterMap lengthOf? := by
  induction ds with
  | nil => exact ⟨[], rfl, by simp, rfl⟩
  | cons d ds ih =>
    obtain ⟨ns, hwords, hnonneg, hlengths⟩ := ih
    cases hd : lengthOf? d with
    | none => exact ⟨ns, by simpa [hd] using hwords, hnonneg, by simpa [hd] using hlengths⟩
    | some k =>
      unfold lengthOf? at hd
      split at hd
      · rename_i n
        split at hd
        · rename_i hn
          have hlength := lengthOf?_integer hn
          refine ⟨n :: ns, ?_, ?_, ?_⟩
          · simp [hlength, wordOf?, hwords]
          · simpa using ⟨hn, hnonneg⟩
          · rw [List.map_cons, List.filterMap_cons, hlength, hlengths]
        · cases hd
      · cases hd

/-- A query that computes one number of all its rows is answered with one row. -/
theorem run_computed {q : Query} {a : Aggregate} {column : String}
    (hcolumns : q.columns = [{ name := .named column, source := some (.unknown computed) }])
    (hgrouping : q.grouping = some (groupedBy [] a)) (hhaving : q.having = [])
    (horderBy : q.orderBy = []) (hkept : q.repetition = .kept) (hlimit : q.limit = none)
    (hoffset : q.offset = 0) (g : Graph) :
    q.run g = [((a.value? (q.matching g)).map (Variable.named column, ·)).toList] := by
  have hcollected : q.collected g = [Row.extend [] computed (a.value? (q.matching g))] := by
    simp [Query.collected, hgrouping, hhaving, groupedBy, Grouping.apply, Grouping.summary]
  simp only [Query.run, hcollected, Query.sorted, horderBy, if_true, Query.projected, hkept,
    Repetition.apply, Query.limited, hlimit, hoffset, List.drop_zero, List.map_cons, List.map_nil,
    hcolumns, Query.withColumns, List.foldl_cons, List.foldl_nil]
  cases a.value? (q.matching g) with
  | none => rfl
  | some t =>
    have hcolumn : (Variable.named column == computed) = false :=
      beq_eq_false_iff_ne.mpr Variable.noConfusion
    simp [Row.extend, Expression.value?, Row.get?, Row.restrict, List.lookup_cons, hcolumn]

theorem filterMap_lengths (g : Graph) :
    ((totalLengthQuery.matching g).filterMap fun row => (Expression.unknown duration).value? row) =
      (g.recordings.flatMap fun r => g.objects r Vocabulary.duration).filter
        fun d => (lengthOf? d).isSome := by
  have hmatching : totalLengthQuery.matching g =
      (rowsOf g [isRecording, hasLength]).filter countsAsLength.keeps := by
    simp [Query.matching, totalLengthQuery, Query.asked]
  simp only [hmatching, rowsOf_lengths, List.filter_flatMap, List.filterMap_flatMap]
  refine List.flatMap_congr fun r _ => ?_
  rw [filter_eq_flatMap]
  refine List.flatMap_congr fun d _ => ?_
  have hkeeps : countsAsLength.keeps [(track, r), (duration, d)] = (lengthOf? d).isSome :=
    keeps_countsAsLength rfl
  have hvalue : (Expression.unknown duration).value? [(track, r), (duration, d)] = some d := rfl
  cases hd : (lengthOf? d).isSome <;> simp [hkeeps, hd, hvalue]

/-- The sum of all lengths, which is shown as zero where it does not fit into a word. -/
theorem totalLength_eq (g : Graph) :
    totalLength g = .ok (if g.allLengths.sum < 2 ^ 63 then g.allLengths.sum else 0) := by
  obtain ⟨ns, hwords, hnonneg, hlengths⟩ :=
    exists_words (g.recordings.flatMap fun r => g.objects r Vocabulary.duration)
  have hlist : ns.map (·.toInt.toNat) = g.allLengths := by
    rw [hlengths, List.filterMap_flatMap]
    rfl
  have hvalue : (Aggregate.sum (.unknown duration)).value? (totalLengthQuery.matching g) =
      if g.allLengths.sum < 2 ^ 63 then
        some (.literal (.integer (Int64.ofNat g.allLengths.sum))) else none := by
    simp only [Aggregate.value?, filterMap_lengths, hwords, Option.bind_eq_bind, Option.bind_some,
      sumWords_eq hnonneg, hlist]
    split <;> rfl
  refine bind_eq_ok_iff.mpr ⟨_, select_eq_run textsSpell.totalLength g, ?_⟩
  rw [run_computed (a := .sum (.unknown duration)) rfl rfl rfl rfl rfl rfl rfl, hvalue]
  by_cases hsum : g.allLengths.sum < 2 ^ 63
  · have htoInt : (Int64.ofNat g.allLengths.sum).toInt = g.allLengths.sum :=
      Int64.toInt_ofNat_of_lt hsum
    simp only [if_pos hsum]
    refine (if_pos rfl).trans ?_
    rw [Option.map_some, Option.toList_some,
      numberIn_eq (n := Int64.ofNat g.allLengths.sum) (by omega) rfl, htoInt, Int.toNat_natCast]
  · -- a sum beyond a word has no value, so that the row has no column
    simp only [if_neg hsum]
    rfl

theorem songCount_eq (g : Graph) :
    songCount g =
      numberIn [(.named "totalSongs", countTerm g.recordings.length)] "totalSongs" := by
  have hvalues : ((songCountQuery.matching g).filterMap fun row =>
      (Expression.unknown track).value? row) = g.recordings := by
    rw [matching_songCount, List.filterMap_flatMap]
    exact List.flatMap_singleton' _
  have hvalue : (Aggregate.count true (.unknown track)).value? (songCountQuery.matching g) =
      some (countTerm g.recordings.length) := by
    rw [Aggregate.value?, hvalues, eraseDups_eq_self Graph.nodup_recordings]
  have hrun : songCountQuery.run g =
      [[(.named "totalSongs", countTerm g.recordings.length)]] := by
    rw [run_computed (a := .count true (.unknown track)) rfl rfl rfl rfl rfl rfl rfl, hvalue]
    rfl
  rw [songCount, select_eq_run textsSpell.songCount, hrun]
  rfl

/-- Where the recordings are not too many to be counted, their number is answered as it is. -/
theorem songCount_eq_ok (hbound : g.recordings.length < 2 ^ 63) :
    songCount g = .ok g.recordings.length := by
  have htoInt : (Int64.ofNat g.recordings.length).toInt = g.recordings.length :=
    Int64.toInt_ofNat_of_lt hbound
  rw [songCount_eq, numberIn_eq (n := Int64.ofNat g.recordings.length) (by omega) rfl, htoInt,
    Int.toNat_natCast]

end Catalog

end Songbook
