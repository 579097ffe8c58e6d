import Mathlib.Data.List.TakeDrop
import Mathlib.Data.List.TakeWhile
import Songbook.Sparql.Reader.Query

/-!
# Running readers

A reader runs on a source step by step. The lemmas here say what each way of putting readers
together does, given what its parts do, so that a reader can be followed along a text of which
some pieces are not known.
-/

namespace Songbook.Sparql

namespace Reader

variable {α β γ : Type} {p q : Reader α} {s s' s'' : Source} {a : α}

theorem bind_eq {f : α → Reader β} {t : Source} (h : p s = some (a, t)) : (p >>= f) s = f a t := by
  simp only [bind, StateT.bind, h]
  rfl

theorem bind_eq_none {f : α → Reader β} (h : p s = none) : (p >>= f) s = none := by
  simp only [bind, StateT.bind, h]
  rfl

theorem orElse_left {r : α × Source} (h : p s = some r) : (p <|> q) s = some r := by
  change (p s).orElse (fun _ => q s) = some r
  rw [h]
  rfl

theorem orElse_right (h : p s = none) : (p <|> q) s = q s := by
  change (p s).orElse (fun _ => q s) = q s
  rw [h]
  rfl

theorem choice_none {ps : List (Reader α)} (h : ∀ p ∈ ps, p s = none) :
    (ps.foldr (· <|> ·) failure : Reader α) s = none := by
  induction ps with
  | nil => rfl
  | cons p ps ih =>
    rw [List.forall_mem_cons] at h
    rw [List.foldr_cons, orElse_right h.1]
    exact ih h.2

theorem optional_none (h : p s = none) : optional p s = some (none, s) :=
  orElse_right (by simp only [Functor.map, StateT.map, h]; rfl)

theorem optional_some (h : p s = some (a, s')) : optional p s = some (some a, s') :=
  orElse_left (by simp only [Functor.map, StateT.map, h]; rfl)

theorem seqLeft_eq {q : Reader β} {b : β} (h : p s = some (a, s')) (h' : q s' = some (b, s'')) :
    (p <* q) s = some (a, s'') := by
  change (p >>= fun a => q >>= fun _ => pure a) s = _
  rw [bind_eq h, bind_eq h']
  rfl

theorem spaced_eq (h : p s = some (a, s')) :
    spaced p s = some (a, { s' with rest := Text.skipSpace false s'.rest }) :=
  seqLeft_eq h rfl

theorem spaced_of_skip {t t' : List Char} {scope : Scope} (h : p s = some (a, ⟨t, scope⟩))
    (hskip : Text.skipSpace false t = t') : spaced p s = some (a, ⟨t', scope⟩) := by
  rw [spaced_eq h, hskip]

theorem spaced_closing {r : List Char} {scope : Scope} (h : p s = some (a, ⟨')' :: r, scope⟩)) :
    spaced p s = some (a, ⟨')' :: r, scope⟩) :=
  spaced_of_skip h rfl

theorem spaced_none (h : p s = none) : spaced p s = none := by
  change (p >>= fun a => blanks >>= fun _ => pure a) s = none
  exact bind_eq_none h

/-- Something between two marks, in front of which there may be blanks. -/
theorem between_eq {opening closing : String} {u : Unit}
    (hopening : spaced (mark opening) s = some (u, s'))
    (h : spaced p s' = some (a, s'')) : between opening p closing s =
      (mark closing >>= fun _ => pure a) s'' := by
  rw [between, bind_eq hopening, bind_eq h]

theorem between_none {opening closing : String} (hopening : mark opening s = none) :
    between opening p closing s = none :=
  bind_eq_none (spaced_none hopening)

/-! ### Repetitions -/

/-- What is read as often as possible, item by item. -/
inductive Repeats (p : Reader α) : Source → List α → Source → Prop
  | stop {before : Source} : p before = none → Repeats p before [] before
  | step {before between after : Source} {a : α} {as : List α} : p before = some (a, between) →
      between.rest.length < before.rest.length → Repeats p between as after →
      Repeats p before (a :: as) after

theorem Repeats.manyWithin {as : List α} (h : Repeats p s as s') {n : Nat}
    (hn : s.rest.length ≤ n) : manyWithin p n s = some (as, s') := by
  induction h generalizing n with
  | stop hstop =>
    cases n with
    | zero => rfl
    | succ n =>
      rw [Reader.manyWithin]
      exact orElse_right (bind_eq_none hstop)
  | step hfirst hlt _ ih =>
    cases n with
    | zero => omega
    | succ n =>
      rw [Reader.manyWithin]
      refine orElse_left ?_
      rw [bind_eq hfirst, bind_eq (ih (by omega))]
      rfl

theorem Repeats.many {as : List α} (h : Repeats p s as s') : many p s = some (as, s') :=
  h.manyWithin (Nat.le_refl _)

theorem some1_eq {as : List α} (h : p s = some (a, s')) (hmore : Repeats p s' as s'') :
    some1 p s = some (a :: as, s'') := by
  rw [some1, bind_eq h, bind_eq hmore.many]
  rfl

theorem separated_eq {between : Reader β} {as : List α} (h : p s = some (a, s'))
    (hmore : Repeats (between *> p) s' as s'') : separated p between s = some (a :: as, s'') := by
  rw [separated, bind_eq h, bind_eq hmore.many]
  rfl

theorem separated_single {between : Reader β} (h : p s = some (a, s'))
    (hstop : between s' = none) : separated p between s = some ([a], s') :=
  separated_eq h (.stop (bind_eq_none hstop))

theorem separated_pair {between : Reader β} {b : β} {a' : α} {s₁ s₂ : Source}
    (hfirst : p s = some (a, s₁)) (hbetween : between s₁ = some (b, s₂))
    (hsecond : p s₂ = some (a', s')) (hlt : s'.rest.length < s₁.rest.length)
    (hstop : between s' = none) : separated p between s = some ([a, a'], s') := by
  refine separated_eq hfirst (.step ?_ hlt (.stop (bind_eq_none hstop)))
  exact (bind_eq hbetween).trans hsecond

/-! ### Characters -/

theorem mark_none {text : String} {c d : Char} {cs r : List Char} {scope : Scope}
    (htext : text.toList = d :: cs) (hne : c ≠ d) :
    mark text { rest := c :: r, scope } = none := by
  have hprefix : (d :: cs).isPrefixOf (c :: r) = false := by
    simp [List.isPrefixOf, Ne.symm hne]
  simp only [mark, ofChars, htext, hprefix]
  rfl

theorem keyword_none {word : String} {c d : Char} {cs r : List Char} {scope : Scope}
    (hword : word.toList = d :: cs) (hne : c.toLower ≠ d) :
    keyword word ⟨c :: r, scope⟩ = none := by
  have hlength : word.length = cs.length + 1 := by
    rw [← String.length_toList, hword, List.length_cons]
  simp only [keyword, ofChars, hlength, List.take_succ_cons, List.map_cons, hword,
    List.cons.injEq, hne, false_and, if_false]
  rfl

theorem mark_nil {text : String} {scope : Scope} (h : text.toList ≠ []) :
    mark text ⟨[], scope⟩ = none := by
  have hprefix : text.toList.isPrefixOf [] = false := by
    cases htext : text.toList with
    | nil => exact absurd htext h
    | cons c cs => rfl
  simp only [mark, ofChars, hprefix]
  rfl

theorem keyword_nil {word : String} {scope : Scope} (h : word.toList ≠ []) :
    keyword word ⟨[], scope⟩ = none := by
  simp only [keyword, ofChars, List.take_nil, List.map_nil, Ne.symm h, if_false]
  rfl

theorem char_none {test : Char → Bool} {c : Char} {r : List Char} {scope : Scope}
    (h : test c = false) : char test { rest := c :: r, scope } = none := by
  simp only [char, ofChars, h]
  rfl

theorem chars_eq {test : Char → Bool} {cs r : List Char} {c : Char} {scope : Scope}
    (hall : cs.all test = true) (hc : test c = false) :
    chars test { rest := cs ++ c :: r, scope } = some (cs, { rest := c :: r, scope }) := by
  have hall' : ∀ x ∈ cs, test x = true := List.all_eq_true.mp hall
  have hspan : (cs ++ c :: r).span test = (cs, c :: r) := by
    rw [List.span_eq_takeWhile_dropWhile, List.takeWhile_append_of_pos hall',
      List.dropWhile_append_of_pos hall']
    simp [hc]
  simp only [chars, ofChars, hspan]
  rfl

theorem someChars_eq {test : Char → Bool} {cs r : List Char} {c : Char} {scope : Scope}
    (hne : cs ≠ []) (hall : cs.all test = true) (hc : test c = false) :
    someChars test { rest := cs ++ c :: r, scope } = some (cs, { rest := c :: r, scope }) := by
  cases cs with
  | nil => exact absurd rfl hne
  | cons d ds =>
    rw [List.all_cons, Bool.and_eq_true] at hall
    have hfirst : char test { rest := d :: ds ++ c :: r, scope } =
        some (d, { rest := ds ++ c :: r, scope }) := by
      simp only [char, ofChars, List.cons_append, hall.1]
      rfl
    rw [someChars, bind_eq hfirst, bind_eq (chars_eq hall.2 hc)]
    rfl

end Reader

end Songbook.Sparql
