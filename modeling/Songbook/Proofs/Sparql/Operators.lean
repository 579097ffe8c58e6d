import Songbook.Proofs.Sparql.Readers

/-!
# Expressions between parentheses

An expression is read through many layers, one for each strength of operators, and most of them
find no operator. The lemmas here lead from what the innermost layer reads to what the outermost
one reads, where an expression ends at a closing parenthesis.
-/

namespace Songbook.Sparql

open Rdf Reader

variable {scope scope' : Scope} {s s' s₁ s₂ : Source} {e : Expression} {r r' : List Char}

/-! ### Operands -/

/-- A chain ends behind its first operand if none of its operators follows. -/
theorem readChain_single {operand : Reader Expression} {signs : List String}
    (hfirst : operand s = some (e, s'))
    (hsigns : ∀ sign ∈ signs, mark sign ⟨Text.skipSpace false s'.rest, s'.scope⟩ = none) :
    readChain operand signs s = some (e, s') := by
  have hnone : ((signs.map mark).foldr (· <|> ·) failure : Reader Unit)
      ⟨Text.skipSpace false s'.rest, s'.scope⟩ = none :=
    choice_none (List.forall_mem_map.2 hsigns)
  have hblanks : blanks s' = some ((), ⟨Text.skipSpace false s'.rest, s'.scope⟩) := rfl
  have hmore : many (do
      blanks
      spaced ((signs.map mark).foldr (· <|> ·) failure)
      operand) s' = some ([], s') := by
    refine (Repeats.stop ?_).many
    rw [bind_eq hblanks, bind_eq_none (spaced_none hnone)]
  rw [readChain, bind_eq hfirst, bind_eq hmore]
  rfl

namespace Inner

variable {inner : Inner}

/-- An operand alone is a number, if no sign stands in front of it and no operator behind it. -/
theorem readNumeric_primary {c d : Char}
    (hprimary : inner.readPrimary ⟨c :: r, scope⟩ = some (e, s'))
    (hc : c ∉ ['!', '+', '-']) (hskip : Text.skipSpace false s'.rest = d :: r')
    (hd : d ∉ ['*', '/', '+', '-']) :
    inner.readNumeric ⟨c :: r, scope⟩ = some (e, s') := by
  simp only [List.mem_cons, List.not_mem_nil, or_false, not_or] at hc hd
  have hunary : inner.readUnary ⟨c :: r, scope⟩ = some (e, s') := by
    have hsign : (mark "!" <|> mark "+" <|> mark "-" : Reader Unit) ⟨c :: r, scope⟩ = none := by
      rw [orElse_right (mark_none rfl hc.1), orElse_right (mark_none rfl hc.2.1),
        mark_none rfl hc.2.2]
    rw [readUnary, orElse_right (bind_eq_none (spaced_none hsign)), hprimary]
  refine readChain_single (readChain_single hunary ?_) ?_
  · rw [hskip]
    simp only [List.mem_cons, List.not_mem_nil, or_false, forall_eq_or_imp, forall_eq]
    exact ⟨mark_none rfl hd.1, mark_none rfl hd.2.1⟩
  · rw [hskip]
    simp only [List.mem_cons, List.not_mem_nil, or_false, forall_eq_or_imp, forall_eq]
    exact ⟨mark_none rfl hd.2.2.1, mark_none rfl hd.2.2.2⟩

/-! ### Comparisons -/

theorem readRelation_numeric (h : inner.readNumeric s = some (e, ⟨')' :: r, scope⟩)) :
    inner.readRelation s = some (e, ⟨')' :: r, scope⟩) := by
  have hsign : readComparisonSign ⟨')' :: r, scope⟩ = none := by
    rw [readComparisonSign, orElse_right (bind_eq_none (mark_none rfl (by decide))),
      orElse_right (bind_eq_none (mark_none rfl (by decide))),
      orElse_right (bind_eq_none (mark_none rfl (by decide))),
      orElse_right (bind_eq_none (mark_none rfl (by decide))),
      orElse_right (bind_eq_none (mark_none rfl (by decide))),
      bind_eq_none (mark_none rfl (by decide))]
  have hnot : optional (spaced (keyword "not")) ⟨')' :: r, scope⟩ =
      some (none, ⟨')' :: r, scope⟩) :=
    optional_none (spaced_none (keyword_none rfl (by decide)))
  have hin : spaced (keyword "in") ⟨')' :: r, scope⟩ = none :=
    spaced_none (keyword_none rfl (by decide))
  rw [readRelation, bind_eq (spaced_closing h), orElse_right (bind_eq_none (spaced_none hsign)),
    orElse_right]
  · rfl
  · rw [bind_eq hnot, bind_eq_none hin]

theorem readRelation_compare {left right : Expression} {c : Comparison}
    (hleft : spaced inner.readNumeric s = some (left, s₁))
    (hsign : spaced readComparisonSign s₁ = some (some c, s₂))
    (hright : inner.readNumeric s₂ = some (right, s')) :
    inner.readRelation s = some (.compare left c right, s') := by
  rw [readRelation, bind_eq hleft]
  refine orElse_left ?_
  rw [bind_eq hsign, bind_eq hright]
  rfl

/-! ### Conditions -/

/-- Conditions that are not alternatives, behind which the parenthesis is closed. -/
theorem readExpression_conjunction (h : inner.readConjunction s = some (e, ⟨')' :: r, scope⟩)) :
    inner.readExpression s = some (e, ⟨')' :: r, scope⟩) := by
  rw [readExpression, bind_eq (separated_single (spaced_closing h)
    (spaced_none (mark_none rfl (by decide))))]
  rfl

theorem readExpression_relation (h : inner.readRelation s = some (e, ⟨')' :: r, scope⟩)) :
    inner.readExpression s = some (e, ⟨')' :: r, scope⟩) := by
  have hconjunction : inner.readConjunction s = some (e, ⟨')' :: r, scope⟩) := by
    rw [readConjunction, bind_eq (separated_single (spaced_closing h)
      (spaced_none (mark_none rfl (by decide))))]
    rfl
  exact readExpression_conjunction hconjunction

theorem readExpression_both {first second : Expression}
    (hfirst : spaced inner.readRelation s = some (first, s₁))
    (hand : spaced (mark "&&") s₁ = some ((), s₂))
    (hsecond : inner.readRelation s₂ = some (second, ⟨')' :: r, scope⟩))
    (hlt : r.length + 1 < s₁.rest.length) :
    inner.readExpression s = some (.both first second, ⟨')' :: r, scope⟩) := by
  refine readExpression_conjunction ?_
  rw [readConjunction, bind_eq (separated_pair hfirst hand (spaced_closing hsecond) hlt
    (spaced_none (mark_none rfl (by decide))))]
  rfl

theorem readParenthesized_eq (hskip : Text.skipSpace false r = r)
    (h : inner.expression ⟨r, scope⟩ = some (e, ⟨')' :: r', scope'⟩)) :
    inner.readParenthesized ⟨'(' :: r, scope⟩ = some (e, ⟨r', scope'⟩) := by
  have hopening : spaced (mark "(") ⟨'(' :: r, scope⟩ = some ((), ⟨r, scope⟩) :=
    spaced_of_skip rfl hskip
  rw [readParenthesized, between_eq hopening (spaced_closing h)]
  rfl

/-! ### The end of a text -/

theorem readBuiltIn_nil : inner.readBuiltIn ⟨[], scope⟩ = none := by
  -- all that a function can begin with is a word, and no word is empty
  have hother : inner.readOtherAggregate ⟨[], scope⟩ = none := bind_eq_none (spaced_none rfl)
  have hcount : inner.readCount ⟨[], scope⟩ = none :=
    bind_eq_none (spaced_none (keyword_nil (by decide)))
  have hsum : inner.readSum ⟨[], scope⟩ = none :=
    bind_eq_none (spaced_none (keyword_nil (by decide)))
  have hconcatenation : inner.readConcatenation ⟨[], scope⟩ = none :=
    bind_eq_none (spaced_none (keyword_nil (by decide)))
  have haggregate : inner.readAggregate ⟨[], scope⟩ = none := by
    refine bind_eq_none ?_
    rw [orElse_right hcount, orElse_right hsum, orElse_right hother,
      hconcatenation]
  have hnames : ∀ f ∈ functions, f.1.toList ≠ [] := by decide
  have hfunction : ∀ f ∈ functions, inner.readFunction f ⟨[], scope⟩ = none :=
    fun f hf => bind_eq_none (spaced_none (keyword_nil (hnames f hf)))
  have hwords : ∀ word ∈ ["bnode", "rand", "now", "uuid", "struuid"], word.toList ≠ [] := by decide
  have hconstant : ∀ word ∈ ["bnode", "rand", "now", "uuid", "struuid"],
      readConstant word ⟨[], scope⟩ = none :=
    fun word hword => bind_eq_none (spaced_none (keyword_nil (hwords word hword)))
  have hvariadic : inner.readVariadic ⟨[], scope⟩ = none := by
    refine (orElse_right (bind_eq_none (spaced_none (keyword_nil (by decide))))).trans ?_
    exact bind_eq_none (spaced_none (keyword_nil (by decide)))
  have hexistence : inner.readExistence ⟨[], scope⟩ = none := by
    refine (bind_eq (optional_none (spaced_none (keyword_nil (by decide))))).trans ?_
    exact bind_eq_none (spaced_none (keyword_nil (by decide)))
  have hdatatype : spaced (keyword "datatype") ⟨[], scope⟩ = none :=
    spaced_none (keyword_nil (by decide))
  have hbound : spaced (keyword "bound") ⟨[], scope⟩ = none :=
    spaced_none (keyword_nil (by decide))
  rw [readBuiltIn, orElse_right haggregate, orElse_right (bind_eq_none hdatatype),
    orElse_right (bind_eq_none hbound), orElse_right (choice_none (List.forall_mem_map.2 hfunction)),
    orElse_right (choice_none (List.forall_mem_map.2 hconstant)), orElse_right hvariadic,
    hexistence]

theorem readSortKey_nil : inner.readSortKey ⟨[], scope⟩ = none := by
  have hiri : spaced readIri ⟨[], scope⟩ = none := spaced_none rfl
  have hparenthesized : inner.readParenthesized ⟨[], scope⟩ = none :=
    between_none (mark_nil (by decide))
  have hconstraint : inner.readConstraint ⟨[], scope⟩ = none := by
    rw [readConstraint, orElse_right hparenthesized, orElse_right (bind_eq_none hiri),
      readBuiltIn_nil]
  have hasc : spaced (keyword "asc") ⟨[], scope⟩ = none := spaced_none (keyword_nil (by decide))
  have hdesc : spaced (keyword "desc") ⟨[], scope⟩ = none := spaced_none (keyword_nil (by decide))
  rw [readSortKey, orElse_right (bind_eq_none hasc), orElse_right (bind_eq_none hdesc),
    orElse_right (bind_eq_none hconstraint)]
  rfl

end Inner

end Songbook.Sparql
