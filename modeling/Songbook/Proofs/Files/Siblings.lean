import Mathlib.Data.List.DropRight
import Songbook.Files.Path

/-!
# The path next to a path

A path and the path next to it have the same names on the way to a directory. There the one ends
in a name and the other in that name with an ending; where the path has no name to end in, the
path next to it has one name more. `Sibling` says this of the names of two paths, without the
pieces that lead nowhere.
-/

namespace Songbook.Path

/-- The names of a path that lead to another place than the one where they start. -/
def steps (p : Path) : List String := p.names.filter (· != ".")

/-- Names that are all dots lead nowhere. -/
def AllDots (names : List String) : Prop := ∀ name ∈ names, name = "."

/-- The names of a path and those of the path next to it. -/
inductive Sibling : List String → List String → Prop
  /-- The last name gets an ending, and the dots around it are left out. -/
  | named {before dots after : List String} {name : String} (hname : isStep name = false)
      (hdots : AllDots dots) (hafter : AllDots after) :
      Sibling (before ++ dots ++ name :: after) (before ++ [name ++ ".tmp"])
  /-- A path without a last name is the directory of the path next to it. -/
  | unnamed {names : List String} : Sibling names (names ++ [".tmp"])

theorem names_append (ps qs : List String) :
    names ⟨ps ++ qs⟩ = names ⟨ps⟩ ++ names ⟨qs⟩ := List.filter_append ps qs

theorem exists_eq_settle_append (pieces : List String) :
    ∃ rest, pieces = settle pieces ++ rest ∧ AllDots (names ⟨rest⟩) := by
  cases pieces with
  | nil =>
    refine ⟨[], rfl, ?_⟩
    intro name hname
    cases hname
  | cons first rest =>
    let leadsNowhere : String → Bool := fun s => s == "" || s == "."
    have hsettle : settle (first :: rest) = first :: rest.rdropWhile leadsNowhere := rfl
    refine ⟨rest.rtakeWhile leadsNowhere, ?_, ?_⟩
    · rw [hsettle, List.cons_append, List.rdropWhile_append_rtakeWhile]
    · intro name hname
      obtain ⟨hmem, hne⟩ := List.mem_filter.mp hname
      have htaken := List.mem_rtakeWhile_imp hmem
      simp only [leadsNowhere, Bool.or_eq_true, beq_iff_eq] at htaken
      exact htaken.resolve_left (by simpa using hne)

theorem names_dropLast {pieces : List String} (h : pieces.getLast? = some "") :
    names ⟨pieces.dropLast⟩ = names ⟨pieces⟩ := by
  obtain ⟨init, rfl⟩ := List.getLast?_eq_some_iff.mp h
  rw [List.dropLast_concat, names_append]
  exact (List.append_nil _).symm

/-- The path next to a path is one of the two siblings. -/
theorem sibling_temporary (p : Path) : Sibling p.names p.temporary.names := by
  obtain ⟨pieces⟩ := p
  have hunnamed : names ⟨(if pieces.getLast? = some "" then pieces.dropLast else pieces) ++
      [".tmp"]⟩ = names ⟨pieces⟩ ++ [".tmp"] := by
    rw [names_append]
    split
    · rw [names_dropLast ‹_›]
      rfl
    · rfl
  obtain ⟨rest, hpieces, hrest⟩ := exists_eq_settle_append pieces
  unfold temporary
  dsimp only
  cases hlast : (settle pieces).getLast? with
  | none =>
    -- settling keeps the first piece, so only a path without pieces has no last one
    have hnil : pieces = [] := by
      cases pieces with
      | nil => rfl
      | cons first rest => simp [settle] at hlast
    subst hnil
    exact .unnamed
  | some name =>
    dsimp only
    split
    · rw [hunnamed]
      exact .unnamed
    · rename_i hname
      obtain ⟨hnonempty, hstep⟩ := not_or.mp hname
      obtain ⟨init, hinit⟩ := List.getLast?_eq_some_iff.mp hlast
      obtain ⟨dots, hbefore, hdots⟩ := exists_eq_settle_append init
      -- dots are taken off in front of the last name and, before that, behind it
      have hnames : names ⟨pieces⟩ =
          names ⟨settle init⟩ ++ names ⟨dots⟩ ++ name :: names ⟨rest⟩ := by
        have hsingle : names ⟨[name]⟩ = [name] := by simp [names, hnonempty]
        rw [← names_append, ← hbefore, ← List.singleton_append, ← hsingle, ← List.append_assoc,
          ← names_append, ← hinit, ← names_append, ← hpieces]
      have hsibling : names ⟨settle init ++ [name ++ ".tmp"]⟩ =
          names ⟨settle init⟩ ++ [name ++ ".tmp"] := by
        rw [names_append]
        simp [names]
      rw [hinit, List.dropLast_concat, hnames, hsibling]
      exact .named (by simpa using hstep) hdots hrest

theorem fromRoot_temporary (p : Path) : p.temporary.fromRoot = p.fromRoot := by
  obtain ⟨pieces⟩ := p
  cases pieces with
  | nil => rfl
  | cons first rest =>
    unfold temporary
    dsimp only
    cases hlast : (settle (first :: rest)).getLast? with
    | none => simp [settle] at hlast
    | some name =>
      obtain ⟨init, hinit⟩ := List.getLast?_eq_some_iff.mp hlast
      dsimp only
      split
      · -- the first piece stays unless it is the only one, and then nothing starts at the root
        cases rest with
        | nil => by_cases hfirst : first = "" <;> simp [fromRoot, hfirst]
        | cons second rest => split <;> simp [fromRoot]
      · rename_i hname
        rw [hinit, List.dropLast_concat]
        cases init with
        | nil =>
          have hfirst : first = name := by
            simp only [settle, List.nil_append, List.cons.injEq] at hinit
            exact hinit.1
          have hnonempty : name ≠ "" := fun h => hname (.inl h)
          simp [fromRoot, settle, hfirst, hnonempty]
        | cons head init =>
          -- the first piece is not the one that gets the ending
          have hhead : first = head := by
            simp only [settle, List.cons_append, List.cons.injEq] at hinit
            exact hinit.1
          have hrest : rest ≠ [] := by
            rintro rfl
            simp [settle] at hinit
          have hlength : 0 < rest.length := List.length_pos_iff.mpr hrest
          simp [fromRoot, settle, hhead, hlength]

theorem append_tmp_ne (name : String) : name ++ ".tmp" ≠ name := by
  intro h
  have hlength := congrArg String.length h
  rw [String.length_append] at hlength
  have htmp : ".tmp".length = 4 := rfl
  omega

theorem isStep_append_tmp (name : String) : isStep (name ++ ".tmp") = false := by
  have hlength : 4 ≤ (name ++ ".tmp").length := by
    rw [String.length_append]
    exact Nat.le_add_left _ _
  have hne : ∀ step : String, step.length < 4 → name ++ ".tmp" ≠ step := by
    rintro step hstep rfl
    omega
  simp [isStep, hne "." (by decide), hne ".." (by decide)]

theorem ne_of_isStep_eq_false {name : String} (h : isStep name = false) :
    name ≠ "." ∧ name ≠ ".." := by
  simpa [isStep] using h

/-- A path never is the path next to it, whatever slashes and dots it is written with. -/
theorem steps_temporary_ne (p : Path) : p.temporary.steps ≠ p.steps := by
  intro h
  unfold steps at h
  -- only the names matter, and these are siblings
  generalize hnames : p.names = names at h
  generalize hnames' : p.temporary.names = names' at h
  have hsibling := sibling_temporary p
  rw [hnames, hnames'] at hsibling
  have hnil : ∀ {dots : List String}, AllDots dots → dots.filter (· != ".") = [] := by
    intro dots hdots
    rw [List.filter_eq_nil_iff]
    intro name hname
    simp [hdots name hname]
  cases hsibling with
  | @named before dots after name hname hdots hafter =>
    have hdot := (ne_of_isStep_eq_false hname).1
    have htmp := (ne_of_isStep_eq_false (isStep_append_tmp name)).1
    simp [hnil hdots, hnil hafter, hdot, htmp] at h
  | unnamed => simp at h

end Songbook.Path
