import Songbook.GraphFile
import Songbook.Proofs.Outcome

/-!
# A saved file is read back

A graph is saved by a write next to its target and a move. Neither step turns a directory into
something else, so that a path leads to the same location before and after it. From this follows
that the document which was written next to the target is what the target holds in the end.
-/

namespace Songbook

namespace FileTree

/-- Every directory of a tree is a directory of the other one, and relative paths start in the
same place. -/
structure Extends (t t' : FileTree) : Prop where
  here : t'.here = t.here
  directories : ∀ l, t.isDirectory l = true → t'.isDirectory l = true

variable {t t' : FileTree}

theorem isDirectory_eq_true {l : Location} (h : t.lookup l = some .directory) :
    t.isDirectory l = true := by
  simp [isDirectory, h]

theorem lookup_of_isDirectory {l : Location} (h : t.isDirectory l = true) :
    t.lookup l = some .directory := by
  unfold isDirectory at h
  split at h
  · assumption
  · cases h

namespace Extends

theorem trans {t'' : FileTree} (h : Extends t t') (h' : Extends t' t'') : Extends t t'' :=
  ⟨h'.here.trans h.here, fun l hl => h'.directories l (h.directories l hl)⟩

/-- A name that leads somewhere leads there in a tree with more directories. -/
theorem enter (h : Extends t t') {l k : Location} {name : String} (hk : t.enter l name = .ok k) :
    t'.enter l name = .ok k := by
  unfold FileTree.enter at hk ⊢
  cases hl : t.lookup l with
  | none => simp [hl] at hk
  | some entry =>
    cases entry with
    | file content => simp [hl] at hk
    | directory =>
      rw [lookup_of_isDirectory (h.directories l (isDirectory_eq_true hl))]
      simpa [hl] using hk

theorem foldlM_enter (h : Extends t t') {names : List String} {l k : Location}
    (hk : names.foldlM t.enter l = .ok k) : names.foldlM t'.enter l = .ok k := by
  induction names generalizing l with
  | nil => exact hk
  | cons name names ih =>
    rw [List.foldlM_cons] at hk ⊢
    cases hname : t.enter l name with
    | error fault => rw [hname] at hk; cases hk
    | ok next =>
      rw [hname] at hk
      rw [h.enter hname]
      exact ih hk

/-- A path that leads somewhere leads there in a tree with more directories. -/
theorem locate (h : Extends t t') {p : Path} {l : Location} (hl : t.locate p = .ok l) :
    t'.locate p = .ok l := by
  have hstart : t'.start p = t.start p := by simp [start, h.here]
  unfold FileTree.locate at hl ⊢
  split at hl
  · cases hl
  · split at hl
    · cases hl
    · split at hl
      · cases hl
      · simp only [*, if_false]
        exact h.foldlM_enter hl

/-- Below the root something else may be where no directory is. -/
theorem of_lookup {l : Location} {e : Option Entry} (hl : t.isDirectory l = false)
    (hhere : t'.here = t.here)
    (hlookup : ∀ k, t'.lookup k =
      if k = [] then some .directory else if k = l then e else t.lookup k) :
    Extends t t' := by
  refine ⟨hhere, fun k hk => isDirectory_eq_true ?_⟩
  have hkl : k ≠ l := by
    rintro rfl
    rw [hl] at hk
    cases hk
  rw [hlookup, lookup_of_isDirectory hk]
  simp [hkl]

/-- A file can be put where no directory is. -/
theorem put {l : Location} (hl : t.isDirectory l = false) (content : ByteArray) :
    Extends t (t.put l (.file content)) :=
  of_lookup hl rfl fun k => lookup_put t l k _

/-- What is no directory can be dropped. -/
theorem drop {l : Location} (hl : t.isDirectory l = false) : Extends t (t.drop l) :=
  of_lookup hl rfl (lookup_drop t l)

end Extends

theorem write_eq_ok {p : Path} {content : ByteArray} (h : t.write p content = .ok t') :
    ∃ l, t.locate p = .ok l ∧ t.isDirectory l = false ∧ t' = t.put l (.file content) := by
  obtain ⟨l, hl, h⟩ := bind_eq_ok_iff.mp h
  refine ⟨l, hl, ?_⟩
  split at h
  · cases h
  · rename_i hno
    simp only [Bool.or_eq_true, not_or, Bool.not_eq_true] at hno
    cases h
    exact ⟨hno.2, rfl⟩

theorem rename_eq_ok {source target : Path} (h : t.rename source target = .ok t') :
    ∃ old new content, t.locate source = .ok old ∧ t.locate target = .ok new ∧
      t.lookup old = some (.file content) ∧ t.isDirectory new = false ∧
      target.toDirectory = false ∧ t' = (t.drop old).put new (.file content) := by
  obtain ⟨old, hold, h⟩ := bind_eq_ok_iff.mp h
  obtain ⟨new, hnew, h⟩ := bind_eq_ok_iff.mp h
  dsimp only at h
  split at h
  · cases h
  · split at h
    · cases h
    · cases h
    · rename_i content hlookup
      split at h
      · cases h
      · rename_i hplain
        split at h
        · cases h
        · rename_i hfree
          simp only [Bool.or_eq_true, not_or, Bool.not_eq_true] at hplain hfree
          exact ⟨old, new, content, hold, hnew, hlookup, hfree, hplain.2, (Except.ok.inj h).symm⟩

theorem isDirectory_of_lookup_file {l : Location} {content : ByteArray}
    (h : t.lookup l = some (.file content)) : t.isDirectory l = false := by
  simp [isDirectory, h]

theorem lookup_put_file {l : Location} (hl : t.isDirectory l = false) (content : ByteArray) :
    (t.put l (.file content)).lookup l = some (.file content) := by
  have hroot : l ≠ [] := by
    rintro rfl
    simp [isDirectory, lookup] at hl
  simp [lookup_put, hroot]

theorem read_eq_ok {p : Path} {l : Location} {content : ByteArray} (hl : t.locate p = .ok l)
    (hfile : t.lookup l = some (.file content)) (hplain : p.toDirectory = false) :
    t.read p = .ok content := by
  refine bind_eq_ok_iff.mpr ⟨l, hl, ?_⟩
  simp only [hfile, hplain]
  rfl

theorem isDirectory_drop {l k : Location} (h : t.isDirectory k = false) :
    (t.drop l).isDirectory k = false := by
  have hroot : k ≠ [] := by
    rintro rfl
    simp [isDirectory, lookup] at h
  unfold isDirectory
  rw [lookup_drop, if_neg hroot]
  split
  · rename_i heq
    split at heq
    · cases heq
    · rw [isDirectory_eq_true heq] at h
      cases h
  · rfl

/-- A content that is written next to a target and moved there is read at the target. -/
theorem read_of_rename_write {temporary target : Path} {content : ByteArray} {t'' : FileTree}
    (hwrite : t.write temporary content = .ok t') (hrename : t'.rename temporary target = .ok t'') :
    t''.read target = .ok content := by
  obtain ⟨l, hl, hfree, rfl⟩ := write_eq_ok hwrite
  obtain ⟨old, new, moved, hold, hnew, hlookup, hnewfree, hplain, rfl⟩ := rename_eq_ok hrename
  have hwritten := Extends.put hfree content
  -- the write leaves directories in place, so that what is moved is the file that was written
  have hsame : old = l := by
    have h := hwritten.locate hl
    rw [hold] at h
    exact Except.ok.inj h
  subst hsame
  have hmoved : moved = content := by
    rw [lookup_put_file hfree] at hlookup
    cases hlookup
    rfl
  subst hmoved
  have hdropped := Extends.drop (isDirectory_of_lookup_file hlookup)
  have hdroppedfree : ((t.put old (.file moved)).drop old).isDirectory new = false :=
    isDirectory_drop hnewfree
  have hput := Extends.put hdroppedfree moved
  have hlocate := (hdropped.trans hput).locate hnew
  exact read_eq_ok hlocate (lookup_put_file hdroppedfree moved) hplain

end FileTree

namespace Disk

variable {o : Operation} {d : Disk}

theorem run_perform_ok {tree : FileTree} (h : o.apply d.tree = .ok tree) :
    (perform o).run d = (.ok (), { tree, journal := d.journal ++ [(d.tree, o)] }) := by
  unfold perform
  simp [h]
  rfl

theorem run_perform_error {fault : SystemFault} (h : o.apply d.tree = .error fault) :
    (perform o).run d =
      (.error fault, { d with journal := d.journal ++ [(d.tree, o)] }) := by
  unfold perform
  simp [h]
  rfl

/-- What comes behind an operation runs on the disk that the operation leaves. -/
theorem run_perform_bind {α : Type} (o : Operation)
    (next : Except SystemFault Unit → Action α) (d : Disk) :
    ((liftM (perform o) : Action _) >>= next).run.run d =
      (next ((perform o).run d).1).run.run ((perform o).run d).2 := rfl

section Bind

variable {α β : Type} {action : Action α} {next : α → Action β} {d' : Disk}

theorem run_bind_ok {a : α} (h : action.run.run d = (.ok a, d')) :
    (action >>= next).run.run d = (next a).run.run d' := by
  rw [ExceptT.run_bind, StateT.run_bind, h]
  rfl

theorem run_bind_error {e : Error} (h : action.run.run d = (.error e, d')) :
    (action >>= next).run.run d = (.error e, d') := by
  rw [ExceptT.run_bind, StateT.run_bind, h]
  rfl

end Bind

end Disk

namespace Graph

/-- What a successful saving did to the tree of a disk. -/
theorem trees_of_save {g : Graph} {path : String} {d d' : Disk}
    (h : (g.save path).run.run d = (.ok (), d')) :
    ∃ written, d.tree.write (Path.ofText path).temporary g.document.toUTF8 = .ok written ∧
      written.rename (Path.ofText path).temporary (Path.ofText path) = .ok d'.tree := by
  let write : Operation := .write (Path.ofText path).temporary g.document.toUTF8
  let move : Operation := .rename (Path.ofText path).temporary (Path.ofText path)
  unfold save at h
  dsimp only at h
  rw [Disk.run_perform_bind] at h
  cases hwrite : write.apply d.tree with
  | error fault =>
    rw [Disk.run_perform_error hwrite] at h
    cases h
  | ok written =>
    refine ⟨written, hwrite, ?_⟩
    rw [Disk.run_perform_ok hwrite] at h
    dsimp only at h
    rw [Disk.run_perform_bind] at h
    cases hrename : move.apply written with
    | error fault =>
      rw [Disk.run_perform_error hrename] at h
      cases h
    | ok tree =>
      rw [Disk.run_perform_ok hrename] at h
      cases h
      exact hrename

/-- A saved graph is loaded as what its document says. -/
theorem load_of_save {g : Graph} {path : String} {d d' : Disk}
    (h : (g.save path).run.run d = (.ok (), d')) :
    load d'.tree path = ofDocument g.document.toUTF8 := by
  obtain ⟨written, hwrite, hrename⟩ := trees_of_save h
  rw [load, FileTree.read_of_rename_write hwrite hrename]

end Graph

end Songbook
