import Songbook.Proofs.Files.Places

/-!
# Saving is all or nothing

A graph is saved by a write next to its target and a move. Whatever files and directories there
are, the target holds at every point either what it held before or the whole document; if saving
fails then it holds what it held before, and nothing is left next to it.
-/

namespace Songbook

namespace FileTree

variable {t t' : FileTree} {p source target : Path} {l : Location} {content : ByteArray}

theorem entryAt_of_read (h : t.read p = .ok content) : t.entryAt p = some (.file content) := by
  obtain ⟨l, hl, h⟩ := bind_eq_ok_iff.mp h
  rw [entryAt_of_locate hl]
  split at h
  · cases h
  · cases h
  · rename_i c hlookup
    split at h
    · cases h
    · rw [hlookup]
      exact congrArg (fun c => some (Entry.file c)) (Except.ok.inj h)

theorem toDirectory_of_write (h : t.write p content = .ok t') : p.toDirectory = false := by
  obtain ⟨l, -, h⟩ := bind_eq_ok_iff.mp h
  split at h
  · cases h
  · rename_i hno
    simp only [Bool.or_eq_true, not_or, Bool.not_eq_true] at hno
    exact hno.1.1

theorem remove_eq_ok (hl : t.locate p = .ok l) (hfile : t.lookup l = some (.file content))
    (hplain : p.toDirectory = false) : t.remove p = .ok (t.drop l) := by
  refine bind_eq_ok_iff.mpr ⟨l, hl, ?_⟩
  simp only [hfile, hplain]
  rfl

theorem lookup_drop_self (hl : t.isDirectory l = false) : (t.drop l).lookup l = none := by
  have hroot : l ≠ [] := by
    rintro rfl
    simp [isDirectory, lookup] at hl
  rw [lookup_drop, if_neg hroot, if_pos rfl]

/-! ### What operations change -/

theorem changes_write (h : t.write p content = .ok t') :
    Changes (fun l => t.locate p = .ok l) t t' := by
  obtain ⟨l, hl, hfree, rfl⟩ := write_eq_ok h
  exact .put hfree hl content

theorem changes_rename (h : t.rename source target = .ok t') :
    Changes (fun l => t.locate source = .ok l ∨ t.locate target = .ok l) t t' := by
  obtain ⟨old, new, content, hold, hnew, hfile, hfree, -, rfl⟩ := rename_eq_ok h
  have hdrop :
      Changes (fun l => t.locate source = .ok l ∨ t.locate target = .ok l) t (t.drop old) :=
    .drop (isDirectory_of_lookup_file hfile) (Or.inl hold)
  exact hdrop.trans (.put (isDirectory_drop hfree) (Or.inr hnew) content)

/-- A write that is interrupted changes no more than one that is not. -/
theorem changes_of_leaves_write (h : (Operation.write p content).Leaves t t') :
    Changes (fun l => t.locate p = .ok l) t t' := by
  rcases h with rfl | h | ⟨p, content, count, heq, h⟩
  · exact .refl _
  · exact changes_write h
  · cases heq
    exact changes_write h

theorem eq_or_of_leaves_rename (h : (Operation.rename source target).Leaves t t') :
    t' = t ∨ t.rename source target = .ok t' := by
  rcases h with rfl | h | ⟨p, content, count, heq, h⟩
  · exact .inl rfl
  · exact .inr h
  · cases heq

theorem eq_or_of_leaves_remove (h : (Operation.remove p).Leaves t t') :
    t' = t ∨ t.remove p = .ok t' := by
  rcases h with rfl | h | ⟨p, content, count, heq, h⟩
  · exact .inl rfl
  · exact .inr h
  · cases heq

/-- What changes next to a path does not change what the path leads to. -/
theorem Changes.entryAt_eq_beside {p : Path}
    (h : Changes (fun l => t.locate p.temporary = .ok l) t t') : t'.entryAt p = t.entryAt p :=
  h.entryAt_eq fun l hl htemporary => t.not_meet_temporary p ⟨l, hl, htemporary⟩

theorem exists_remove_of_write (h : t.write p content = .ok t') :
    ∃ t'', t'.remove p = .ok t'' ∧ Changes (fun l => t.locate p = .ok l) t t'' ∧
      t''.entryAt p = none := by
  obtain ⟨l, hl, hfree, rfl⟩ := write_eq_ok h
  have hput : Changes (fun l => t.locate p = .ok l) t (t.put l (.file content)) :=
    .put hfree hl content
  have hlocate := hput.locate_eq_ok_iff.mpr hl
  have hfile := lookup_put_file hfree content
  have hdrop := hput.trans (.drop (isDirectory_of_lookup_file hfile) hl)
  refine ⟨_, remove_eq_ok hlocate hfile (toDirectory_of_write h), hdrop, ?_⟩
  rw [entryAt_of_locate (hdrop.locate_eq_ok_iff.mpr hl),
    lookup_drop_self (isDirectory_of_lookup_file hfile)]

theorem entryAt_temporary_of_rename (h : t.rename p.temporary p = .ok t') :
    t'.entryAt p.temporary = none := by
  have hchanges := changes_rename h
  obtain ⟨old, new, content, hold, hnew, hfile, hfree, -, rfl⟩ := rename_eq_ok h
  have hne : old ≠ new := by
    rintro rfl
    exact t.not_meet_temporary p ⟨old, hnew, hold⟩
  have hdropped := lookup_drop_self (isDirectory_of_lookup_file hfile)
  have hroot : old ≠ [] := by
    rintro rfl
    cases hfile
  rw [entryAt_of_locate (hchanges.locate_eq_ok_iff.mpr hold), lookup_put, if_neg hroot,
    if_neg hne, hdropped]

end FileTree

namespace Graph

/-! ### What saving does -/

/-- What saving a content at a path makes of a tree: the outcome, the tree that is left, and the
operations with the trees that they found. -/
inductive Saved (target : Path) (content : ByteArray) (t : FileTree) :
    Except Error Unit → FileTree → List (FileTree × Operation) → Prop
  /-- The write fails. -/
  | unwritten {fault : SystemFault}
      (hwrite : t.write target.temporary content = .error fault) :
      Saved target content t (.error (.file (.system fault))) t
        [(t, .write target.temporary content)]
  /-- The move fails, and what was written is removed. -/
  | unmoved {written removed : FileTree} {fault : SystemFault}
      (hwrite : t.write target.temporary content = .ok written)
      (hrename : written.rename target.temporary target = .error fault)
      (hremove : written.remove target.temporary = .ok removed) :
      Saved target content t (.error (.file (.system fault))) removed
        [(t, .write target.temporary content), (written, .rename target.temporary target),
          (written, .remove target.temporary)]
  | moved {written saved : FileTree}
      (hwrite : t.write target.temporary content = .ok written)
      (hrename : written.rename target.temporary target = .ok saved) :
      Saved target content t (.ok ()) saved
        [(t, .write target.temporary content), (written, .rename target.temporary target)]

theorem exists_saved (g : Graph) (path : String) (d : Disk) :
    ∃ outcome tree steps, (g.save path).run.run d = (outcome, ⟨tree, d.journal ++ steps⟩) ∧
      Saved (Path.ofText path) g.document.toUTF8 d.tree outcome tree steps := by
  let write : Operation := .write (Path.ofText path).temporary g.document.toUTF8
  let move : Operation := .rename (Path.ofText path).temporary (Path.ofText path)
  unfold save
  dsimp only
  rw [Disk.run_perform_bind]
  cases hwrite : write.apply d.tree with
  | error fault =>
    rw [Disk.run_perform_error hwrite]
    exact ⟨_, _, _, rfl, .unwritten hwrite⟩
  | ok written =>
    rw [Disk.run_perform_ok hwrite]
    dsimp only
    rw [Disk.run_perform_bind]
    cases hrename : move.apply written with
    | error fault =>
      -- what was just written is a file, which can always be removed
      obtain ⟨removed, hremove, -, -⟩ := FileTree.exists_remove_of_write hwrite
      let remove : Operation := .remove (Path.ofText path).temporary
      have happly : remove.apply written = .ok removed := hremove
      rw [Disk.run_perform_error hrename]
      dsimp only
      rw [Disk.run_perform_bind, Disk.run_perform_ok happly]
      refine ⟨_, _, _, ?_, .unmoved hwrite hrename hremove⟩
      rw [List.append_assoc, List.append_assoc]
      rfl
    | ok saved =>
      rw [Disk.run_perform_ok hrename, List.append_assoc]
      exact ⟨_, _, _, rfl, .moved hwrite hrename⟩

section Saved

variable {target : Path} {content : ByteArray} {t t' : FileTree} {outcome : Except Error Unit}
  {steps : List (FileTree × Operation)}

/-- At every point the target holds what it held before or the whole content. -/
theorem Saved.entryAt_target_of_passed (h : Saved target content t outcome t' steps)
    {u : FileTree} (hu : Disk.Passed steps u) :
    u.entryAt target = t.entryAt target ∨ u.entryAt target = some (.file content) := by
  obtain ⟨entry, hentry, hleaves⟩ := hu
  cases h with
  | unwritten hwrite =>
    obtain rfl := List.mem_singleton.mp hentry
    exact .inl (FileTree.changes_of_leaves_write hleaves).entryAt_eq_beside
  | unmoved hwrite hrename hremove =>
    have hwritten := (FileTree.changes_write hwrite).entryAt_eq_beside
    simp only [List.mem_cons, List.not_mem_nil, or_false] at hentry
    rcases hentry with rfl | rfl | rfl
    · exact .inl (FileTree.changes_of_leaves_write hleaves).entryAt_eq_beside
    · rcases FileTree.eq_or_of_leaves_rename hleaves with rfl | hmoved
      · exact .inl hwritten
      · -- the move was refused
        rw [hrename] at hmoved
        cases hmoved
    · rcases FileTree.eq_or_of_leaves_remove hleaves with rfl | hremoved
      · exact .inl hwritten
      · obtain ⟨removed, hremove', hchanges, -⟩ := FileTree.exists_remove_of_write hwrite
        obtain rfl : removed = u := Except.ok.inj (hremove'.symm.trans hremoved)
        exact .inl hchanges.entryAt_eq_beside
  | moved hwrite hrename =>
    simp only [List.mem_cons, List.not_mem_nil, or_false] at hentry
    rcases hentry with rfl | rfl
    · exact .inl (FileTree.changes_of_leaves_write hleaves).entryAt_eq_beside
    · rcases FileTree.eq_or_of_leaves_rename hleaves with rfl | hmoved
      · exact .inl (FileTree.changes_write hwrite).entryAt_eq_beside
      · have hread := FileTree.read_of_rename_write hwrite hmoved
        exact .inr (FileTree.entryAt_of_read hread)

/-- Saving that succeeds changes the target and what is next to it. -/
theorem Saved.of_ok (h : Saved target content t (.ok ()) t' steps) :
    t'.read target = .ok content ∧ t'.entryAt target.temporary = none ∧
      ∀ p, ¬ t.Meet p target → ¬ t.Meet p target.temporary → t'.entryAt p = t.entryAt p := by
  cases h with
  | @moved written _ hwrite hrename =>
    have hwritten := FileTree.changes_write hwrite
    refine ⟨FileTree.read_of_rename_write hwrite hrename,
      FileTree.entryAt_temporary_of_rename hrename, fun p htarget htemporary => ?_⟩
    -- the write changes the path next to the target, the move that path and the target
    have hp : written.entryAt p = t.entryAt p :=
      hwritten.entryAt_eq fun l hl hl' => htemporary ⟨l, hl, hl'⟩
    rw [← hp]
    refine (FileTree.changes_rename hrename).entryAt_eq fun l hl hchanged => ?_
    simp only [hwritten.locate_eq_ok_iff] at hl hchanged
    rcases hchanged with hl' | hl'
    · exact htemporary ⟨l, hl, hl'⟩
    · exact htarget ⟨l, hl, hl'⟩

/-- Saving that fails changes at most the place next to the target. -/
theorem Saved.changes_of_error {e : Error} (h : Saved target content t (.error e) t' steps) :
    FileTree.Changes (fun l => t.locate target.temporary = .ok l) t t' := by
  cases h with
  | unwritten hwrite => exact .refl _
  | unmoved hwrite hrename hremove =>
    obtain ⟨removed, hremove', hchanges, -⟩ := FileTree.exists_remove_of_write hwrite
    obtain rfl : removed = t' := Except.ok.inj (hremove'.symm.trans hremove)
    exact hchanges

/-- Saving that fails changes nothing, except that it may remove what was next to the target. -/
theorem Saved.of_error {e : Error} (h : Saved target content t (.error e) t' steps) :
    (t'.entryAt target.temporary = none ∨
        t'.entryAt target.temporary = t.entryAt target.temporary) ∧
      ∀ p, ¬ t.Meet p target.temporary → t'.entryAt p = t.entryAt p := by
  refine ⟨?_, fun p hp => h.changes_of_error.entryAt_eq fun l hl hl' => hp ⟨l, hl, hl'⟩⟩
  cases h with
  | unwritten hwrite => exact .inr rfl
  | unmoved hwrite hrename hremove =>
    obtain ⟨removed, hremove', -, hnone⟩ := FileTree.exists_remove_of_write hwrite
    obtain rfl : removed = t' := Except.ok.inj (hremove'.symm.trans hremove)
    exact .inl hnone

end Saved

/-- A graph is saved completely or not at all, and at every point in between the target holds
what it held before or the whole document. What is prepared next to the target is another path
at another place, and it is gone in the end. -/
theorem save_atomic (g : Graph) (path : String) (d : Disk) :
    let target := Path.ofText path
    let temporary := target.temporary
    let document := g.document.toUTF8
    temporary.steps ≠ target.steps ∧ ¬ d.tree.Meet target temporary ∧
    ∃ outcome tree steps, (g.save path).run.run d = (outcome, ⟨tree, d.journal ++ steps⟩) ∧
      (∀ t, Disk.Passed steps t →
        t.entryAt target = d.tree.entryAt target ∨ t.entryAt target = some (.file document)) ∧
      match outcome with
      | .ok () =>
        tree.read target = .ok document ∧ tree.entryAt temporary = none ∧
          ∀ p, ¬ d.tree.Meet p target → ¬ d.tree.Meet p temporary →
            tree.entryAt p = d.tree.entryAt p
      | .error _ =>
        tree.entryAt target = d.tree.entryAt target ∧
          (tree.entryAt temporary = none ∨
            tree.entryAt temporary = d.tree.entryAt temporary) ∧
          ∀ p, ¬ d.tree.Meet p temporary → tree.entryAt p = d.tree.entryAt p := by
  intro target temporary document
  have hmeet := d.tree.not_meet_temporary target
  obtain ⟨outcome, tree, steps, hrun, hsaved⟩ := g.exists_saved path d
  refine ⟨target.steps_temporary_ne, hmeet, outcome, tree, steps, hrun,
    fun t ht => hsaved.entryAt_target_of_passed ht, ?_⟩
  cases outcome with
  | ok _ => exact hsaved.of_ok
  | error e =>
    obtain ⟨hbeside, hothers⟩ := hsaved.of_error
    exact ⟨hothers target hmeet, hbeside, hothers⟩

end Graph

end Songbook
