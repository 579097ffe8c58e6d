import Songbook.Proofs.Distinct
import Songbook.Sparql.Query

/-!
# Sorted rows

Rows are sorted by comparing terms, which is an order only for terms that can be compared. What a
comparison respects comes out sorted even so, `pairwise_sortRows`, for instance a first key whose
values can be compared. Where the rows at hand have keys that a lawful order tells apart, sorting
them sorts their keys, and the outcome does not depend on the order in which the rows were found:
`map_sortRows`.
-/

namespace Songbook

open Std

/-- Values in an order; values that it does not tell apart stay as they are. -/
def sortedBy {κ : Type} (cmp : κ → κ → Ordering) (ks : List κ) : List κ :=
  ks.mergeSort fun a b => (cmp a b).isLE

section Sorted

variable {κ : Type} {cmp : κ → κ → Ordering} {ks ls : List κ}

theorem sortedBy_perm (cmp : κ → κ → Ordering) (ks : List κ) : (sortedBy cmp ks).Perm ks :=
  List.mergeSort_perm ks _

theorem pairwise_sortedBy [TransCmp cmp] (ks : List κ) :
    (sortedBy cmp ks).Pairwise fun a b => (cmp a b).isLE := by
  refine List.pairwise_mergeSort (fun a b c => TransCmp.isLE_trans) (fun a b => ?_) ks
  cases h : (cmp a b).isLE with
  | true => rfl
  | false =>
    have hle : ¬ (cmp a b).isLE := by simp [h]
    have hlt := OrientedCmp.lt_of_not_isLE hle
    simp [hlt]

theorem eq_sortedBy [TransCmp cmp] [LawfulEqCmp cmp] (hperm : ls.Perm ks)
    (hsorted : ls.Pairwise fun a b => (cmp a b).isLE) : ls = sortedBy cmp ks := by
  refine List.Perm.eq_of_pairwise (fun a b _ _ hab hba => ?_) hsorted (pairwise_sortedBy ks)
    (hperm.trans (sortedBy_perm cmp ks).symm)
  exact LawfulEqCmp.eq_of_compare (OrientedCmp.isLE_antisymm hab hba)

/-- Sorting forgets the order in which values are given. -/
theorem sortedBy_eq_of_perm [TransCmp cmp] [LawfulEqCmp cmp] (h : ls.Perm ks) :
    sortedBy cmp ls = sortedBy cmp ks :=
  eq_sortedBy ((sortedBy_perm cmp ls).trans h) (pairwise_sortedBy ls)

theorem filter_sortedBy [TransCmp cmp] [LawfulEqCmp cmp] (test : κ → Bool) (ks : List κ) :
    (sortedBy cmp ks).filter test = sortedBy cmp (ks.filter test) :=
  eq_sortedBy ((sortedBy_perm cmp ks).filter test) ((pairwise_sortedBy ks).filter test)

/-- Sorting by what values become sorts what they become. -/
theorem map_sortedBy {ι : Type} {f : ι → κ} {cmp' : ι → ι → Ordering} {is : List ι}
    (h : ∀ a ∈ is, ∀ b ∈ is, cmp' a b = cmp (f a) (f b)) :
    (sortedBy cmp' is).map f = sortedBy cmp (is.map f) :=
  List.map_mergeSort fun a ha b hb => by rw [h a ha b hb]

/-- The opposite order turns a sorted list around. -/
theorem sortedBy_opposite [TransCmp cmp] [LawfulEqCmp cmp] (ks : List κ) :
    sortedBy (fun a b => cmp b a) ks = (sortedBy cmp ks).reverse := by
  refine (eq_sortedBy ((List.reverse_perm _).trans (sortedBy_perm cmp ks)) ?_).symm
  exact List.pairwise_reverse.mpr (pairwise_sortedBy ks)

/-- Values without repetitions are the same after sorting as before. -/
theorem eraseDups_sortedBy [BEq κ] [LawfulBEq κ] [TransCmp cmp] [LawfulEqCmp cmp] (ks : List κ) :
    (sortedBy cmp ks).eraseDups = sortedBy cmp ks.eraseDups :=
  eq_sortedBy (eraseDups_perm (sortedBy_perm cmp ks))
    ((pairwise_sortedBy ks).sublist (eraseDups_sublist _))

/-- Texts are compared by their characters. -/
theorem isLE_compare_iff {s t : String} : (compare s t).isLE ↔ s ≤ t :=
  isLE_compareOfLessAndEq String.le_antisymm String.not_le String.le_total

theorem pairwise_le_sortedBy (ss : List String) : (sortedBy compare ss).Pairwise (· ≤ ·) :=
  (pairwise_sortedBy ss).imp isLE_compare_iff.mp

theorem pairwise_lt_sortedBy {ss : List String} (h : ss.Nodup) :
    (sortedBy compare ss).Pairwise (· < ·) := by
  have hnodup : (sortedBy compare ss).Nodup := (sortedBy_perm compare ss).nodup_iff.mpr h
  exact ((pairwise_le_sortedBy ss).and hnodup).imp fun ⟨hle, hne⟩ => Std.lt_of_le_of_ne hle hne

end Sorted

namespace Sparql

section

variable {κ : Type} {cmp : κ → κ → Ordering} {key : Row → κ} {order : Row → Row → Ordering}
  {R : Row → Row → Prop}

theorem insertRow_perm (order : Row → Row → Ordering) (row : Row) (rows : List Row) :
    (insertRow order row rows).Perm (row :: rows) := by
  induction rows with
  | nil => rfl
  | cons last rest ih =>
    rw [insertRow]
    split
    · exact (ih.cons last).trans (List.Perm.swap row last rest)
    · rfl

/-- A comparison of rows that never goes against a relation between them. -/
structure Respects (order : Row → Row → Ordering) (R : Row → Row → Prop) (rows : List Row) :
    Prop where
  of_ne_gt : ∀ a ∈ rows, ∀ b ∈ rows, order a b ≠ .gt → R a b
  of_ne_lt : ∀ a ∈ rows, ∀ b ∈ rows, order a b ≠ .lt → R b a

theorem Respects.mono {rows others : List Row} (h : Respects order R rows) (hsub : others ⊆ rows) :
    Respects order R others where
  of_ne_gt a ha b hb := h.of_ne_gt a (hsub ha) b (hsub hb)
  of_ne_lt a ha b hb := h.of_ne_lt a (hsub ha) b (hsub hb)

/-- A comparison that looks at a number first, the greatest first, never goes against it. -/
theorem respects_of_compare {rank : Row → Nat} {rows : List Row}
    (h : ∀ a ∈ rows, ∀ b ∈ rows, ∃ o, order a b = (compare (rank b) (rank a)).then o) :
    Respects order (fun a b => rank b ≤ rank a) rows := by
  constructor
  · intro a ha b hb hne
    obtain ⟨o, ho⟩ := h a ha b hb
    by_contra hlt
    rw [ho, Nat.compare_eq_gt.mpr (by omega)] at hne
    exact hne rfl
  · intro a ha b hb hne
    obtain ⟨o, ho⟩ := h a ha b hb
    by_contra hlt
    rw [ho, Nat.compare_eq_lt.mpr (by omega)] at hne
    exact hne rfl

theorem pairwise_insertRow (htrans : ∀ a b c, R a b → R b c → R a c) {row : Row}
    {rows : List Row} (h : Respects order R (row :: rows))
    (hsorted : rows.Pairwise fun a b => R b a) :
    (insertRow order row rows).Pairwise fun a b => R b a := by
  induction rows with
  | nil => simp [insertRow]
  | cons last rest ih =>
    obtain ⟨hlast, hrest⟩ := List.pairwise_cons.mp hsorted
    have hrow : row ∈ row :: last :: rest := by simp
    have hmem : last ∈ row :: last :: rest := by simp
    rw [insertRow]
    split
    · -- the list is kept in reverse, and the row goes past a greater one
      rename_i hlt
      refine List.pairwise_cons.mpr ⟨fun other hother => ?_, ?_⟩
      · rcases List.mem_cons.mp ((insertRow_perm order row rest).mem_iff.mp hother) with rfl | hother
        · exact h.of_ne_gt other hrow last hmem (by simp [hlt])
        · exact hlast other hother
      · refine ih (h.mono ?_) hrest
        exact List.cons_subset_cons row (List.subset_cons_self last rest)
    · -- the row comes first, also before an equal one
      rename_i hge
      have hle : R last row := h.of_ne_lt row hrow last hmem hge
      refine List.pairwise_cons.mpr ⟨fun other hother => ?_, hsorted⟩
      rcases List.mem_cons.mp hother with rfl | hother
      · exact hle
      · exact htrans other last row (hlast other hother) hle

theorem foldl_insertRow_perm (order : Row → Row → Ordering) (rows sorted : List Row) :
    (rows.foldl (fun sorted row => insertRow order row sorted) sorted).Perm (rows ++ sorted) := by
  induction rows generalizing sorted with
  | nil => rfl
  | cons row rows ih =>
    have hperm := insertRow_perm order row sorted
    exact ((ih _).trans (List.Perm.append_left rows hperm)).trans List.perm_middle

/-- Rows that are inserted one after the other are sorted backwards. -/
theorem pairwise_foldl_insertRow (htrans : ∀ a b c, R a b → R b c → R a c)
    {rows sorted : List Row} (h : Respects order R (rows ++ sorted))
    (hsorted : sorted.Pairwise fun a b => R b a) :
    (rows.foldl (fun sorted row => insertRow order row sorted) sorted).Pairwise
      fun a b => R b a := by
  induction rows generalizing sorted with
  | nil => exact hsorted
  | cons row rows ih =>
    have hsub : rows ++ insertRow order row sorted ⊆ row :: rows ++ sorted := by
      intro other hother
      simp only [List.mem_append, (insertRow_perm order row sorted).mem_iff, List.mem_cons]
        at hother ⊢
      tauto
    have hinserted := pairwise_insertRow htrans
      (h.mono (List.cons_subset_cons row (List.subset_append_right rows sorted))) hsorted
    exact ih (h.mono hsub) hinserted

/-! ### Merging -/

theorem pairwise_merge (htrans : ∀ a b c, R a b → R b c → R a c) {xs ys : List Row}
    (h : Respects order R (xs ++ ys)) (hxs : xs.Pairwise R) (hys : ys.Pairwise R) :
    (xs.merge ys fun a b => order a b != .gt).Pairwise R := by
  induction xs generalizing ys with
  | nil => simpa using hys
  | cons x xs ihx =>
    induction ys with
    | nil => simpa using hxs
    | cons y ys ihy =>
      obtain ⟨hx, hxs'⟩ := List.pairwise_cons.mp hxs
      obtain ⟨hy, hys'⟩ := List.pairwise_cons.mp hys
      have hxmem : x ∈ x :: xs ++ y :: ys := by simp
      have hymem : y ∈ x :: xs ++ y :: ys := by simp
      rw [List.merge]
      split
      · rename_i hle
        have hxy : R x y := h.of_ne_gt x hxmem y hymem (by simpa using hle)
        refine List.pairwise_cons.mpr ⟨fun z hz => ?_, ?_⟩
        · rcases List.mem_merge.mp hz with hz | hz
          · exact hx z hz
          · rcases List.mem_cons.mp hz with rfl | hz
            · exact hxy
            · exact htrans x y z hxy (hy z hz)
        · exact ihx (h.mono fun z hz => List.mem_cons_of_mem x hz) hxs' hys
      · rename_i hgt
        have hyx : R y x := h.of_ne_lt x hxmem y hymem fun hlt => hgt (by simp [hlt])
        refine List.pairwise_cons.mpr ⟨fun z hz => ?_, ?_⟩
        · rcases List.mem_merge.mp hz with hz | hz
          · rcases List.mem_cons.mp hz with rfl | hz
            · exact hyx
            · exact htrans y x z hyx (hx z hz)
          · exact hy z hz
        · refine ihy (h.mono fun z hz => ?_) hys'
          rcases List.mem_append.mp hz with hz | hz
          · exact List.mem_append_left _ hz
          · exact List.mem_append_right _ (List.mem_cons_of_mem y hz)

theorem pairwise_mergeSort (htrans : ∀ a b c, R a b → R b c → R a c) {rows : List Row}
    (h : Respects order R rows) : (rows.mergeSort fun a b => order a b != .gt).Pairwise R := by
  match rows with
  | [] => simp
  | [a] => simp
  | a :: b :: rest =>
    rw [List.mergeSort]
    simp only [List.MergeSort.Internal.splitInTwo_fst, List.MergeSort.Internal.splitInTwo_snd]
    let k := ((a :: b :: rest).length + 1) / 2
    have hk : 0 < k ∧ k < (a :: b :: rest).length := by
      simp only [k, List.length_cons]
      omega
    have hshort : ((a :: b :: rest).take k).length < (a :: b :: rest).length := by
      rw [List.length_take]
      omega
    have hshort' : ((a :: b :: rest).drop k).length < (a :: b :: rest).length := by
      rw [List.length_drop]
      omega
    have hleft := pairwise_mergeSort htrans (h.mono (List.take_subset k _))
    have hright := pairwise_mergeSort htrans (h.mono (List.drop_subset k _))
    refine pairwise_merge htrans (h.mono fun row hrow => ?_) hleft hright
    rcases List.mem_append.mp hrow with hrow | hrow
    · exact List.take_subset k _ (List.mem_mergeSort.mp hrow)
    · exact List.drop_subset k _ (List.mem_mergeSort.mp hrow)
termination_by rows.length

/-- Sorting rows keeps them all. -/
theorem sortRows_perm (order : Row → Row → Ordering) (rows : List Row) :
    (sortRows order rows).Perm rows := by
  unfold sortRows
  split
  · have hperm := foldl_insertRow_perm order rows []
    rw [List.append_nil] at hperm
    exact (List.reverse_perm _).trans hperm
  · exact List.mergeSort_perm rows _

/-- Rows come out in the relation that the comparison respects. -/
theorem pairwise_sortRows (htrans : ∀ a b c, R a b → R b c → R a c) {rows : List Row}
    (h : Respects order R rows) : (sortRows order rows).Pairwise R := by
  unfold sortRows
  split
  · rw [List.pairwise_reverse]
    exact pairwise_foldl_insertRow htrans (by simpa using h) List.Pairwise.nil
  · exact pairwise_mergeSort htrans h

/-- Sorting rows sorts their keys. -/
theorem map_sortRows [TransCmp cmp] [LawfulEqCmp cmp] {rows : List Row}
    (h : ∀ a ∈ rows, ∀ b ∈ rows, order a b = cmp (key a) (key b)) :
    (sortRows order rows).map key = sortedBy cmp (rows.map key) := by
  have hrespects : Respects order (fun a b => (cmp (key a) (key b)).isLE) rows := by
    constructor
    · intro a ha b hb hne
      rw [h a ha b hb] at hne
      exact Ordering.isLE_iff_ne_gt.mpr hne
    · intro a ha b hb hne
      rw [h a ha b hb] at hne
      rw [← OrientedCmp.isGE_eq_isLE]
      exact Ordering.isGE_iff_ne_lt.mpr hne
  refine eq_sortedBy ((sortRows_perm order rows).map key) ?_
  rw [List.pairwise_map]
  exact pairwise_sortRows (fun _ _ _ => TransCmp.isLE_trans) hrespects

end

end Sparql

end Songbook
