import Mathlib.Data.List.Nodup
import Mathlib.Data.List.Perm.Basic

/-!
# Lists without repetitions

What is left of a list when repeated values are removed depends on its values only, up to the
order. These are the facts by which answers that mention every value once are compared.
-/

namespace Songbook

variable {α β : Type} [BEq α] [LawfulBEq α] [BEq β] [LawfulBEq β]

omit [LawfulBEq α] in
/-- Repetitions are removed value by value: behind a value, only the others matter. -/
@[elab_as_elim]
theorem eraseDups_induction {motive : List α → Prop} (as : List α) (nil : motive [])
    (cons : ∀ a as, motive (as.filter fun b => !b == a) → motive (a :: as)) : motive as := by
  cases as with
  | nil => exact nil
  | cons a as => exact cons a as (eraseDups_induction _ nil cons)
termination_by as.length
decreasing_by
  have := List.length_filter_le (fun b => !b == a) as
  rw [List.length_cons]
  omega

omit [LawfulBEq α] in
/-- Removing repetitions removes values and changes nothing else. -/
theorem eraseDups_sublist (as : List α) : as.eraseDups.Sublist as := by
  induction as using eraseDups_induction with
  | nil => simp
  | cons a as ih =>
    rw [List.eraseDups_cons]
    exact (ih.trans List.filter_sublist).cons_cons a

/-- What is left has no repetitions. -/
theorem nodup_eraseDups (as : List α) : as.eraseDups.Nodup := by
  induction as using eraseDups_induction with
  | nil => simp
  | cons a as ih =>
    rw [List.eraseDups_cons]
    exact List.nodup_cons.mpr ⟨by simp [List.mem_eraseDups], ih⟩

/-- Lists without repetitions have the same values if they have the same members. -/
theorem eraseDups_perm_of_mem_iff {as bs : List α} (h : ∀ a, a ∈ as ↔ a ∈ bs) :
    as.eraseDups.Perm bs.eraseDups := by
  refine (List.perm_ext_iff_of_nodup (nodup_eraseDups as) (nodup_eraseDups bs)).mpr fun a => ?_
  simp [List.mem_eraseDups, h]

theorem eraseDups_perm {as bs : List α} (h : as.Perm bs) : as.eraseDups.Perm bs.eraseDups :=
  eraseDups_perm_of_mem_iff fun _ => h.mem_iff

theorem eraseDups_eq_self {as : List α} (h : as.Nodup) : as.eraseDups = as := by
  induction as with
  | nil => rfl
  | cons a as ih =>
    obtain ⟨ha, has⟩ := List.nodup_cons.mp h
    have hfilter : as.filter (fun b => !b == a) = as := by
      refine List.filter_eq_self.mpr fun b hb => ?_
      have : b ≠ a := fun hab => ha (hab ▸ hb)
      simpa using this
    rw [List.eraseDups_cons, hfilter, ih has]

/-- Values that are told apart afterwards too are repeated as often as before. -/
theorem eraseDups_map {f : α → β} (hf : Function.Injective f) (as : List α) :
    (as.map f).eraseDups = as.eraseDups.map f := by
  induction as using eraseDups_induction with
  | nil => simp
  | cons a as ih =>
    have hfilter : (as.map f).filter (fun b => !b == f a) =
        (as.filter fun b => !b == a).map f := by
      rw [List.filter_map]
      congr 2
      funext b
      simp [Function.comp, hf.eq_iff]
    rw [List.map_cons, List.eraseDups_cons, List.eraseDups_cons, List.map_cons, hfilter, ih]

/-- The values of each key, one key after the other, are all values. -/
theorem flatMap_filter_perm {ι κ : Type} [DecidableEq κ] {key : ι → κ} {ks : List κ} {as : List ι}
    (hnodup : ks.Nodup) (hmem : ∀ a ∈ as, key a ∈ ks) :
    (ks.flatMap fun k => as.filter (key · = k)).Perm as := by
  induction ks generalizing as with
  | nil =>
    have hempty : as = [] := List.eq_nil_iff_forall_not_mem.mpr fun a ha => by simpa using hmem a ha
    rw [hempty]
    rfl
  | cons k ks ih =>
    obtain ⟨hk, hks⟩ := List.nodup_cons.mp hnodup
    let others := as.filter fun a => !decide (key a = k)
    have hothers : ∀ a ∈ others, key a ∈ ks := by
      intro a ha
      obtain ⟨ha, hne⟩ := List.mem_filter.mp ha
      exact (List.mem_cons.mp (hmem a ha)).resolve_left (by simpa using hne)
    -- the other keys have their values among the others
    have hblocks : (ks.flatMap fun k' => as.filter (key · = k')) =
        ks.flatMap fun k' => others.filter (key · = k') := by
      refine List.flatMap_congr fun k' hk' => ?_
      have hne : k' ≠ k := fun heq => hk (heq ▸ hk')
      rw [List.filter_filter]
      refine List.filter_congr fun a _ => ?_
      by_cases ha : key a = k'
      · simp [ha, hne]
      · simp [ha]
    rw [List.flatMap_cons, hblocks]
    exact ((ih hks hothers).append_left _).trans (List.filter_append_perm _ as)

/-! ### The first value of each key -/

section Firsts

variable {ι κ : Type} [DecidableEq κ] {key : ι → κ}

/-- A list with later values of a key that occurred already removed. -/
def firstsBy (key : ι → κ) : List ι → List ι
  | [] => []
  | a :: as => a :: (firstsBy key as).filter fun b => key b ≠ key a

theorem firstsBy_sublist (as : List ι) : (firstsBy key as).Sublist as := by
  induction as with
  | nil => exact List.nil_sublist _
  | cons a as ih => exact (List.filter_sublist.trans ih).cons_cons a

theorem nodup_map_firstsBy (as : List ι) : ((firstsBy key as).map key).Nodup := by
  induction as with
  | nil => exact List.nodup_nil
  | cons a as ih =>
    rw [firstsBy, List.map_cons, List.nodup_cons]
    refine ⟨?_, ih.sublist (List.filter_sublist.map key)⟩
    intro hmem
    obtain ⟨b, hb, hkey⟩ := List.mem_map.mp hmem
    simpa [hkey] using (List.mem_filter.mp hb).2

/-- Every key occurs. -/
theorem exists_mem_firstsBy {as : List ι} {a : ι} (ha : a ∈ as) :
    ∃ b ∈ firstsBy key as, key b = key a := by
  induction as with
  | nil => cases ha
  | cons c as ih =>
    by_cases hkey : key a = key c
    · exact ⟨c, by simp [firstsBy], hkey.symm⟩
    · have ha' : a ∈ as := (List.mem_cons.mp ha).resolve_left fun h => hkey (h ▸ rfl)
      obtain ⟨b, hb, hba⟩ := ih ha'
      refine ⟨b, ?_, hba⟩
      rw [firstsBy, List.mem_cons, List.mem_filter]
      exact Or.inr ⟨hb, by simpa [hba] using hkey⟩

end Firsts

end Songbook
