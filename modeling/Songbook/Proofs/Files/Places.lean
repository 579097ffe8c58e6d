import Songbook.Proofs.Files.Replacement
import Songbook.Proofs.Files.Siblings

/-!
# Places in a tree

`FileTree.entryAt` is what a path leads to. Which place this is depends on the directories of a
tree only, so that a tree in which files come and go leads every path to the same place:
`Changes`. A path and the path next to it never lead to one place.
-/

namespace Songbook.FileTree

/-- What a path leads to, if it leads anywhere and something is there. -/
def entryAt (t : FileTree) (p : Path) : Option Entry :=
  match t.locate p with
  | .ok l => t.lookup l
  | .error _ => none

/-- Two paths lead to one place. -/
def Meet (t : FileTree) (p q : Path) : Prop := ∃ l, t.locate p = .ok l ∧ t.locate q = .ok l

variable {t t' : FileTree} {p : Path} {l k : Location}

theorem entryAt_of_locate (h : t.locate p = .ok l) : t.entryAt p = t.lookup l := by
  simp [entryAt, h]

/-! ### Trees with other files -/

/-- Two trees have the same directories, and the same files at all places but some. -/
structure Changes (changed : Location → Prop) (t t' : FileTree) : Prop where
  forth : Extends t t'
  back : Extends t' t
  elsewhere : ∀ l, ¬ changed l → t'.lookup l = t.lookup l

namespace Changes

variable {changed : Location → Prop}

theorem refl (t : FileTree) : Changes changed t t :=
  ⟨⟨rfl, fun _ h => h⟩, ⟨rfl, fun _ h => h⟩, fun _ _ => rfl⟩

theorem trans {t'' : FileTree} (h : Changes changed t t') (h' : Changes changed t' t'') :
    Changes changed t t'' where
  forth := h.forth.trans h'.forth
  back := h'.back.trans h.back
  elsewhere l hl := (h'.elsewhere l hl).trans (h.elsewhere l hl)

/-- At one place below the root there is something else now, which is no directory. -/
theorem of_lookup {e : Option Entry} (he : e ≠ some .directory) (hchanged : changed l)
    (forth : Extends t t')
    (hlookup : ∀ k, t'.lookup k =
      if k = [] then some .directory else if k = l then e else t.lookup k) :
    Changes changed t t' where
  forth := forth
  back := by
    refine ⟨forth.here.symm, fun k hk => ?_⟩
    have hdirectory := lookup_of_isDirectory hk
    rw [hlookup] at hdirectory
    split at hdirectory
    · rename_i hroot
      simp [isDirectory, lookup, hroot]
    · split at hdirectory
      · exact absurd hdirectory he
      · exact isDirectory_eq_true hdirectory
  elsewhere k hk := by
    have hkl : k ≠ l := by
      rintro rfl
      exact hk hchanged
    rw [hlookup, if_neg hkl]
    split
    · rename_i hroot
      simp [lookup, hroot]
    · rfl

theorem put (hl : t.isDirectory l = false) (hchanged : changed l) (content : ByteArray) :
    Changes changed t (t.put l (.file content)) :=
  of_lookup (by simp) hchanged (.put hl content) fun k => lookup_put t l k _

theorem drop (hl : t.isDirectory l = false) (hchanged : changed l) :
    Changes changed t (t.drop l) :=
  of_lookup (by simp) hchanged (.drop hl) (lookup_drop t l)

theorem locate_eq_ok_iff (h : Changes changed t t') : t'.locate p = .ok l ↔ t.locate p = .ok l :=
  ⟨h.back.locate, h.forth.locate⟩

/-- A path that leads to none of the places that change leads to what was there. -/
theorem entryAt_eq (h : Changes changed t t') (hp : ∀ l, t.locate p = .ok l → ¬ changed l) :
    t'.entryAt p = t.entryAt p := by
  cases hl : t.locate p with
  | ok l =>
    rw [entryAt_of_locate (h.locate_eq_ok_iff.mpr hl), entryAt_of_locate hl,
      h.elsewhere l (hp l hl)]
  | error fault =>
    cases hl' : t'.locate p with
    | ok l =>
      rw [h.locate_eq_ok_iff, hl] at hl'
      cases hl'
    | error fault' => simp [entryAt, hl, hl']

end Changes

/-! ### The place next to a place -/

theorem foldlM_enter_of_locate (h : t.locate p = .ok l) :
    p.names.foldlM t.enter (t.start p) = .ok l := by
  unfold locate at h
  split at h
  · cases h
  · split at h
    · cases h
    · split at h
      · cases h
      · exact h

theorem enter_dot (h : t.enter l "." = .ok k) : k = l := by
  unfold enter at h
  split at h
  · cases h
  · cases h
  · exact (Except.ok.inj h).symm

theorem enter_name {name : String} (hname : Path.isStep name = false)
    (h : t.enter l name = .ok k) : k = l ++ [name] := by
  obtain ⟨hdot, hdots⟩ := Path.ne_of_isStep_eq_false hname
  unfold enter at h
  rw [if_neg hdot, if_neg hdots] at h
  split at h
  · cases h
  · cases h
  · split at h
    · cases h
    · exact (Except.ok.inj h).symm

theorem foldlM_enter_dots {dots : List String} (hdots : Path.AllDots dots)
    (h : dots.foldlM t.enter l = .ok k) : k = l := by
  induction dots generalizing l with
  | nil => exact (Except.ok.inj h).symm
  | cons name dots ih =>
    obtain rfl := hdots name (by simp)
    rw [List.foldlM_cons] at h
    obtain ⟨next, hnext, h⟩ := bind_eq_ok_iff.mp h
    rw [ih (fun name hname => hdots name (by simp [hname])) h, enter_dot hnext]

/-- Names and those of the path next to them do not lead from one place to one place. -/
theorem foldlM_enter_ne_of_sibling {names names' : List String}
    (hsibling : Path.Sibling names names') (h : names.foldlM t.enter l = .ok k) :
    names'.foldlM t.enter l ≠ .ok k := by
  intro h'
  cases hsibling with
  | @named before dots after name hname hdots hafter =>
    rw [List.append_assoc, List.foldlM_append] at h
    rw [List.foldlM_append] at h'
    obtain ⟨b, hbefore, hrest⟩ := bind_eq_ok_iff.mp h
    obtain ⟨b', hbefore', hlast'⟩ := bind_eq_ok_iff.mp h'
    -- both go through the same directory, where the dots stay
    have hb : b' = b := Except.ok.inj (hbefore'.symm.trans hbefore)
    rw [List.foldlM_append] at hrest
    obtain ⟨c, hc, hlast⟩ := bind_eq_ok_iff.mp hrest
    have hcb : c = b := foldlM_enter_dots hdots hc
    -- from there the paths go on with different names
    rw [hcb, List.foldlM_cons] at hlast
    rw [hb, List.foldlM_cons] at hlast'
    obtain ⟨e, he, hafter'⟩ := bind_eq_ok_iff.mp hlast
    obtain ⟨e', he', hend⟩ := bind_eq_ok_iff.mp hlast'
    have hk : k = b ++ [name] := (foldlM_enter_dots hafter hafter').trans (enter_name hname he)
    have hk' : k = b ++ [name ++ ".tmp"] :=
      (Except.ok.inj hend).symm.trans (enter_name (Path.isStep_append_tmp name) he')
    rw [hk, List.append_cancel_left_eq, List.cons.injEq] at hk'
    exact Path.append_tmp_ne name hk'.1.symm
  | unnamed =>
    rw [List.foldlM_append] at h'
    obtain ⟨b, hb, hlast⟩ := bind_eq_ok_iff.mp h'
    have hbk : b = k := Except.ok.inj (hb.symm.trans h)
    rw [hbk, List.foldlM_cons] at hlast
    obtain ⟨e, he, hend⟩ := bind_eq_ok_iff.mp hlast
    -- the place next to it would be inside of it
    have hk : k = k ++ [".tmp"] := (Except.ok.inj hend).symm.trans (enter_name (by decide) he)
    simp at hk

/-- A path and the path next to it never lead to one place. -/
theorem not_meet_temporary (t : FileTree) (p : Path) : ¬ t.Meet p p.temporary := by
  rintro ⟨l, hp, htemporary⟩
  have hstart : t.start p.temporary = t.start p := by simp [start, p.fromRoot_temporary]
  have h := foldlM_enter_of_locate htemporary
  rw [hstart] at h
  exact foldlM_enter_ne_of_sibling p.sibling_temporary (foldlM_enter_of_locate hp) h

end Songbook.FileTree
