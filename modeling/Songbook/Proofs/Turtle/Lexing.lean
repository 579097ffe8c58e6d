import Songbook.Proofs.Text.Quotation
import Songbook.Proofs.Turtle.Numerals

/-!
# Written lexemes are read back

In a written document white space follows every lexeme. `Spells cs l` says that the characters
`cs` are read as the lexeme `l` whenever white space follows them, and the writer's names, texts
and numbers are shown to spell what they were written for. A local name is the hardest of them:
some of its characters stand behind backslashes, and a point at its end must not get lost.
-/

namespace Songbook.Turtle

open Rdf Text

/-- Characters that are read as one lexeme whenever white space follows them. -/
structure Spells (cs : List Char) (l : Lexeme) : Prop where
  front : ∃ c r, cs = c :: r ∧ isSpace c = false ∧ c ≠ '#'
  read : ∀ b rest, isSpace b = true → Lexeme.read? (cs ++ b :: rest) = some (l, b :: rest)

/-! ### White space -/

theorem skipSpace_append {blanks : List Char} (h : blanks.all isSpace = true) (cs : List Char) :
    skipSpace false (blanks ++ cs) = skipSpace false cs := by
  induction blanks with
  | nil => rfl
  | cons b blanks ih =>
    rw [List.all_cons, Bool.and_eq_true] at h
    rw [List.cons_append, skipSpace]
    simp [h.1, ih h.2]

theorem eq_of_isSpace {b : Char} (h : isSpace b = true) :
    b = ' ' ∨ b = '\t' ∨ b = '\n' ∨ b = '\r' := by
  simp only [isSpace, Bool.or_eq_true, beq_iff_eq] at h
  tauto

theorem eq_false_of_isSpace {test : Char → Bool}
    (h : [' ', '\t', '\n', '\r'].any test = false) {b : Char} (hb : isSpace b = true) :
    test b = false := by
  have hmem : b ∈ [' ', '\t', '\n', '\r'] := by simpa using eq_of_isSpace hb
  simpa using List.any_eq_false.mp h b hmem

theorem isSpace_eq_false {test : Char → Bool} (h : [' ', '\t', '\n', '\r'].any test = false)
    {c : Char} (hc : test c = true) : isSpace c = false := by
  by_contra hspace
  rw [eq_false_of_isSpace h (by simpa using hspace)] at hc
  cases hc

theorem Spells.readAll_append {cs : List Char} {l : Lexeme} (h : Spells cs l)
    {blanks : List Char} (hblanks : blanks.all isSpace = true) {b : Char} (hb : isSpace b = true)
    (rest : List Char) :
    Lexeme.readAll (blanks ++ cs ++ b :: rest) =
      (Lexeme.readAll (b :: rest)).map (l :: ·) := by
  obtain ⟨c, r, rfl, hc, hsign⟩ := h.front
  have hskip : skipSpace false (blanks ++ c :: r ++ b :: rest) = c :: r ++ b :: rest := by
    rw [List.append_assoc, skipSpace_append hblanks, List.cons_append, skipSpace]
    simp [hc, hsign]
  have hlength : (b :: rest).length < (blanks ++ c :: r ++ b :: rest).length := by
    simp
    omega
  rw [Lexeme.readAll, hskip]
  split
  · rename_i hnil
    cases hnil
  · simp only [h.read b rest hb, if_pos hlength]

theorem readAll_of_isSpace {blanks : List Char} (h : blanks.all isSpace = true) :
    Lexeme.readAll blanks = some [] := by
  have hskip := skipSpace_append h []
  rw [List.append_nil] at hskip
  rw [Lexeme.readAll, hskip]
  rfl

/-! ### Marks and words -/

theorem read?_cons {c : Char} (h : c ∉ ['<', '"', '\'', '@', '_']) (r : List Char) :
    Lexeme.read? (c :: r) =
      if isNameBase c || c == ':' then Lexeme.readName (c :: r)
      else if c.isDigit || c == '+' || c == '-' || (c == '.' && r.head?.any Char.isDigit) then
        (Lexeme.readNumber (c :: r)).map fun (kind, spelling, rest) =>
          (Lexeme.number kind spelling, rest)
      else Lexeme.readMark (c :: r) := by
  unfold Lexeme.read?
  split <;> rename_i heq <;> cases heq
  all_goals first | exact absurd (by decide) h | rfl

theorem spells_mark {c : Char} (h : c ∈ ['.', ',', ';']) :
    Spells [c] (.mark (String.singleton c)) := by
  simp only [List.mem_cons, List.not_mem_nil, or_false] at h
  refine ⟨⟨c, [], rfl, ?_⟩, fun b rest hb => ?_⟩
  · rcases h with rfl | rfl | rfl <;> decide
  · have hdigit : b.isDigit = false := eq_false_of_isSpace (by decide) hb
    rcases h with rfl | rfl | rfl
    · rw [List.singleton_append, read?_cons (by decide), if_neg (by decide), if_neg (by simpa)]
      rfl
    · rfl
    · rfl

theorem spells_a : Spells ['a'] (.word ['a']) := by
  refine ⟨⟨'a', [], rfl, by decide⟩, fun b rest hb => ?_⟩
  rcases eq_of_isSpace hb with rfl | rfl | rfl | rfl <;> rfl

theorem spells_prefix : Spells "@prefix".toList (.marked "prefix".toList) := by
  refine ⟨⟨'@', _, rfl, by decide⟩, fun b rest hb => ?_⟩
  rcases eq_of_isSpace hb with rfl | rfl | rfl | rfl <;> rfl

/-! ### References -/

theorem undoCodes_eq_self {cs : List Char} (h : '\\' ∉ cs) : undoCodes cs = some cs := by
  induction cs with
  | nil => rfl
  | cons c r ih =>
    simp only [List.mem_cons, not_or] at h
    rw [undoCodes]
    · rw [if_neg (Ne.symm h.1), ih h.2]
      rfl
    · rintro _ _ _ _ _ rfl
      exact absurd rfl h.1
    · rintro _ _ _ _ _ _ _ _ _ rfl
      exact absurd rfl h.1

theorem readReference_append {cs : List Char} (hclose : '>' ∉ cs) (hslash : '\\' ∉ cs)
    (rest : List Char) : readReference (cs ++ '>' :: rest) = some (cs, rest) := by
  have hspan : (cs ++ '>' :: rest).span (· != '>') = (cs, '>' :: rest) := by
    have hall : ∀ c ∈ cs, (c != '>') = true := fun c hc => by
      have : c ≠ '>' := fun h => hclose (h ▸ hc)
      simpa using this
    rw [List.span_eq_takeWhile_dropWhile, List.takeWhile_append_of_pos hall,
      List.dropWhile_append_of_pos hall]
    simp
  simp only [readReference, hspan, undoCodes_eq_self hslash, Option.map_some]

/-- A reference spells its text if it holds neither its closing bracket nor a code. -/
theorem spells_reference {cs : List Char} (hclose : '>' ∉ cs) (hslash : '\\' ∉ cs) :
    Spells ('<' :: cs ++ ['>']) (.reference cs) := by
  refine ⟨⟨'<', _, rfl, by decide⟩, fun b rest _ => ?_⟩
  have hread := readReference_append hclose hslash (b :: rest)
  have hopen : Lexeme.read? ('<' :: (cs ++ '>' :: b :: rest)) =
      (readReference (cs ++ '>' :: b :: rest)).map fun read =>
        (Lexeme.reference read.1, read.2) := rfl
  rw [hread] at hopen
  simpa using hopen

/-! ### Texts and numbers -/

theorem spells_writeQuoted (s : String) : Spells (writeQuoted s) (.quoted s.toList) := by
  refine ⟨⟨'"', _, rfl, by decide⟩, fun b rest hb => ?_⟩
  have hcode : ∀ x y, looseCode? ['0', '0', x, y] = ofHex? ['0', '0', x, y] := fun _ _ => rfl
  have hread : readShort looseCode? '"' (s.toList.flatMap escapeChar ++ '"' :: b :: rest) =
      some (s.toList, b :: rest) := readShort_flatMap_escapeChar hcode s.toList (b :: rest)
  have htake : (s.toList.flatMap escapeChar ++ '"' :: b :: rest).take 2 ≠ ['"', '"'] := by
    cases hinner : s.toList.flatMap escapeChar with
    | nil =>
      have hb' : b ≠ '"' := by
        rintro rfl
        exact absurd hb (by decide)
      simpa using hb'
    | cons c cs =>
      have hc : c ≠ '"' := head?_flatMap_escapeChar_ne s.toList c (by rw [hinner]; rfl)
      intro htake
      exact hc (by simpa using (List.cons.inj htake).1)
  have hquoted : Lexeme.readQuoted '"' (s.toList.flatMap escapeChar ++ '"' :: b :: rest) =
      some (s.toList, b :: rest) := by
    rw [Lexeme.readQuoted, if_neg htake, hread]
  have hopen : Lexeme.read? ('"' :: (s.toList.flatMap escapeChar ++ '"' :: b :: rest)) =
      (Lexeme.readQuoted '"' (s.toList.flatMap escapeChar ++ '"' :: b :: rest)).map
        fun read => (Lexeme.quoted read.1, read.2) := rfl
  rw [hquoted] at hopen
  simpa [writeQuoted] using hopen

/-- The spelling of a whole number begins with a digit or a minus sign. -/
theorem exists_text_integer_eq (n : Int64) :
    ∃ c r, (Literal.integer n).text.toList = c :: r ∧ (c.isDigit = true ∨ c = '-') := by
  rw [Literal.toList_text_integer, ← signOf]
  rcases signOf_cases n with hsign | hsign
  · have hdigits := all_isDigit_toDigits n.toInt.natAbs
    cases htext : Nat.toDigits 10 n.toInt.natAbs with
    | nil => exact absurd htext Nat.toDigits_ne_nil
    | cons c r =>
      rw [htext, List.all_cons, Bool.and_eq_true] at hdigits
      exact ⟨c, r, by rw [hsign, List.nil_append], Or.inl hdigits.1⟩
  · exact ⟨'-', _, by rw [hsign, List.singleton_append], Or.inr rfl⟩

theorem ne_of_isDigit {c d : Char} (h : c.isDigit = true) (hd : d.isDigit = false) : c ≠ d := by
  rintro rfl
  rw [h] at hd
  cases hd

theorem isNameBase_of_isDigit {c : Char} (h : c.isDigit = true) : isNameBase c = false := by
  have hrange : 48 ≤ c.toNat ∧ c.toNat ≤ 57 := Char.isDigit_iff_toNat.mp h
  have halpha : c.isAlpha = false := by
    change (decide ('A'.val ≤ c.val ∧ c.val ≤ 'Z'.val) ||
      (decide ('a'.val ≤ c.val) && decide (c.val ≤ 'z'.val))) = false
    simp only [UInt32.le_iff_toNat_le, Bool.or_eq_false_iff, Bool.and_eq_false_iff,
      decide_eq_false_iff_not]
    change ¬ (65 ≤ c.toNat ∧ c.toNat ≤ 90) ∧ (¬ 97 ≤ c.toNat ∨ ¬ c.toNat ≤ 122)
    omega
  simp only [isNameBase, halpha, Bool.false_or, Bool.or_eq_false_iff, Bool.and_eq_false_iff,
    decide_eq_false_iff_not]
  omega

/-- The spelling of a whole number spells a number without a point. -/
theorem spells_integer (n : Int64) :
    Spells (Literal.integer n).text.toList
      (.number .whole (Literal.integer n).text.toList) := by
  obtain ⟨c, r, htext, hc⟩ := exists_text_integer_eq n
  have hopens : c ∉ ['<', '"', '\'', '@', '_'] ∧ c ≠ '#' ∧ c ≠ ':' ∧ isNameBase c = false := by
    rcases hc with hc | rfl
    · have hne {d : Char} (hd : d.isDigit = false) : c ≠ d := ne_of_isDigit hc hd
      refine ⟨?_, hne (by decide), hne (by decide), isNameBase_of_isDigit hc⟩
      simp [hne (d := '<') (by decide), hne (d := '"') (by decide), hne (d := '\'') (by decide),
        hne (d := '@') (by decide), hne (d := '_') (by decide)]
    · decide
  refine ⟨⟨c, r, htext, ?_, hopens.2.1⟩, fun b rest hb => ?_⟩
  · rcases hc with hc | rfl
    · exact isSpace_eq_false (by decide) hc
    · rfl
  · have hended : Ended (b :: rest) := Ended.cons (eq_false_of_isSpace (by decide) hb)
    have hread := readNumber_text n hended
    rw [htext] at hread ⊢
    rw [List.cons_append, read?_cons hopens.1, if_neg (by simp [hopens]),
      if_pos (by rcases hc with hc | rfl <;> simp [*]), ← List.cons_append, hread]
    rfl

end Songbook.Turtle
