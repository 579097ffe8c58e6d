import Songbook.Proofs.Sparql.Operators
import Songbook.Proofs.Turtle.Lexing

/-!
# Parameters of queries are read back

A query text may hold a number or a text that is not known beforehand. Whatever number or text
it is, the reader of queries takes it off as one literal, and what follows is left for the rest
of the query.
-/

namespace Songbook.Sparql

open Rdf Reader

variable {scope : Scope}

/-! ### Openings -/

section Openings

variable {c : Char} {r : List Char}

/-- An identifier begins with an angle bracket, a colon or a letter. -/
theorem readIri_none (hbracket : c ≠ '<') (hcolon : c ≠ ':') (hbase : isNameBase c = false) :
    readIri ⟨c :: r, scope⟩ = none := by
  have hname : (do
      let first ← char isNameBase
      let run ← chars isNameChar
      let more ← many (dotted (someChars isNameChar))
      return first :: run ++ more.flatten) ⟨c :: r, scope⟩ = none :=
    bind_eq_none (char_none hbase)
  have hspace : readSpace ⟨c :: r, scope⟩ = none := by
    have hempty : ((do
        let first ← char isNameBase
        let run ← chars isNameChar
        let more ← many (dotted (someChars isNameChar))
        return first :: run ++ more.flatten) <|> pure []) ⟨c :: r, scope⟩ =
        some ([], ⟨c :: r, scope⟩) := orElse_right hname
    rw [readSpace, bind_eq hempty, bind_eq_none (mark_none rfl hcolon)]
  have hreference : readReference ⟨c :: r, scope⟩ = none := bind_eq_none (mark_none rfl hbracket)
  rw [readIri, orElse_right hreference, orElse_right (bind_eq_none hspace), bind_eq_none hspace]

theorem readVariable_none (hquestion : c ≠ '?') (hdollar : c ≠ '$') :
    readVariable ⟨c :: r, scope⟩ = none :=
  bind_eq_none (char_none (by simp [hquestion, hdollar]))

theorem readTextIn_none {quote : Char} (h : c ≠ quote) :
    readTextIn quote ⟨c :: r, scope⟩ = none := by
  have htriple : (String.ofList [quote, quote, quote]).toList = quote :: [quote, quote] :=
    String.toList_ofList
  rw [readTextIn, orElse_right (bind_eq_none (mark_none htriple h)),
    bind_eq_none (char_none (by simp [h]))]

end Openings

/-! ### Numbers -/

section Numbers

variable {ds r : List Char} {c : Char}

theorem readUnsigned_digits (hne : ds ≠ []) (hall : ds.all Char.isDigit = true)
    (hc : Turtle.continuesNumber c = false) :
    readUnsigned { rest := ds ++ c :: r, scope } = some (.whole, { rest := c :: r, scope }) := by
  simp only [Turtle.continuesNumber, Bool.or_eq_false_iff, beq_eq_false_iff_ne] at hc
  obtain ⟨⟨⟨hdigit, hpoint⟩, he⟩, hE⟩ := hc
  have hsome : someChars Char.isDigit { rest := ds ++ c :: r, scope } =
      some (ds, { rest := c :: r, scope }) := someChars_eq hne hall hdigit
  have hmark : mark "." { rest := c :: r, scope } = none := mark_none rfl hpoint
  have hpointed : readPointed { rest := ds ++ c :: r, scope } = none := by
    rw [readPointed, bind_eq (chars_eq hall hdigit), bind_eq_none hmark]
  have hexponent : readExponent { rest := c :: r, scope } = none := by
    rw [readExponent, bind_eq_none (char_none (by simp [he, hE]))]
  have hwhole : (readPointed <|> (do
      let _ ← someChars Char.isDigit
      let _ ← optional (mark ".")
      return)) { rest := ds ++ c :: r, scope } = some ((), { rest := c :: r, scope }) := by
    rw [orElse_right hpointed, bind_eq hsome, bind_eq (optional_none hmark)]
    rfl
  rw [readUnsigned, orElse_right, orElse_right, bind_eq hsome]
  · rfl
  · rw [bind_eq_none hpointed]
  · rw [bind_eq hwhole, bind_eq_none hexponent]

theorem readNumber_digits (hne : ds ≠ []) (hall : ds.all Char.isDigit = true)
    (hc : Turtle.continuesNumber c = false) :
    readNumber { rest := ds ++ c :: r, scope } =
      some (.ofNumber .whole ds, { rest := c :: r, scope }) := by
  have hsign : optional (char fun c => c == '+' || c == '-') { rest := ds ++ c :: r, scope } =
      some (none, { rest := ds ++ c :: r, scope }) := by
    refine optional_none ?_
    cases ds with
    | nil => exact absurd rfl hne
    | cons d ds =>
      refine char_none ?_
      have hplus := Turtle.ne_cons_of_all_isDigit hall (c := '+') (by decide) ds
      have hminus := Turtle.ne_cons_of_all_isDigit hall (c := '-') (by decide) ds
      simp only [ne_eq, List.cons.injEq, and_true] at hplus hminus
      simp [hplus, hminus]
  have hkind : (do
      let sign ← optional (char fun c => c == '+' || c == '-')
      if sign.isSome then blanks
      readUnsigned) { rest := ds ++ c :: r, scope } =
      some (NumberKind.whole, { rest := c :: r, scope }) := by
    rw [bind_eq hsign]
    exact readUnsigned_digits hne hall hc
  have htaken : (ds ++ c :: r).take ((ds ++ c :: r).length - (c :: r).length) = ds := by
    simp
  have hget : (get : Reader Source) { rest := ds ++ c :: r, scope } =
      some ({ rest := ds ++ c :: r, scope }, { rest := ds ++ c :: r, scope }) := rfl
  rw [readNumber, readNumberOf, bind_eq hget, bind_eq hkind]
  change some (Literal.ofNumber .whole
    ((ds ++ c :: r).take ((ds ++ c :: r).length - (c :: r).length)), _) = _
  rw [htaken]

theorem readPrimary_digits {inner : Inner} (hne : ds ≠ []) (hall : ds.all Char.isDigit = true) :
    inner.readPrimary ⟨ds ++ ')' :: r, scope⟩ =
      some (.term (.literal (.ofNumber .whole ds)), ⟨')' :: r, scope⟩) := by
  have hnumber : readNumber ⟨ds ++ ')' :: r, scope⟩ =
      some (.ofNumber .whole ds, ⟨')' :: r, scope⟩) := readNumber_digits hne hall (by decide)
  cases ds with
  | nil => exact absurd rfl hne
  | cons d ds =>
    have hd : d.isDigit = true := by
      rw [List.all_cons, Bool.and_eq_true] at hall
      exact hall.1
    have hopens {c : Char} (hc : c.isDigit = false) : d ≠ c := Turtle.ne_of_isDigit hd hc
    have hbase : isNameBase d = false := by
      rw [isNameBase, Turtle.isNameBase_of_isDigit hd, Bool.false_and]
    rw [List.cons_append] at hnumber ⊢
    -- every reader in front of the one for literals fails on a digit
    have hparenthesized : inner.readParenthesized ⟨d :: (ds ++ ')' :: r), scope⟩ = none :=
      between_none (mark_none rfl (hopens (by decide)))
    have hiri : readIri ⟨d :: (ds ++ ')' :: r), scope⟩ = none :=
      readIri_none (hopens (by decide)) (hopens (by decide)) hbase
    have hvariable : readVariable ⟨d :: (ds ++ ')' :: r), scope⟩ = none :=
      readVariable_none (hopens (by decide)) (hopens (by decide))
    have htext : readText ⟨d :: (ds ++ ')' :: r), scope⟩ = none := by
      rw [readText, orElse_right (readTextIn_none (hopens (by decide))),
        readTextIn_none (hopens (by decide))]
    have hliteral : readLiteral ⟨d :: (ds ++ ')' :: r), scope⟩ =
        some (.ofNumber .whole (d :: ds), ⟨')' :: r, scope⟩) := by
      refine (orElse_right ?_).trans (orElse_left hnumber)
      exact bind_eq_none htext
    have hcall : inner.readIriOrCall ⟨d :: (ds ++ ')' :: r), scope⟩ = none := bind_eq_none hiri
    rw [Inner.readPrimary, orElse_right hparenthesized, orElse_right hcall,
      orElse_right (bind_eq_none hvariable)]
    refine orElse_left ?_
    rw [bind_eq hliteral]
    rfl

theorem readNumeric_digits {inner : Inner} (hne : ds ≠ []) (hall : ds.all Char.isDigit = true) :
    inner.readNumeric ⟨ds ++ ')' :: r, scope⟩ =
      some (.term (.literal (.ofNumber .whole ds)), ⟨')' :: r, scope⟩) := by
  have hprimary : inner.readPrimary ⟨ds ++ ')' :: r, scope⟩ =
      some (.term (.literal (.ofNumber .whole ds)), ⟨')' :: r, scope⟩) :=
    readPrimary_digits hne hall
  cases ds with
  | nil => exact absurd rfl hne
  | cons d ds =>
    have hsign : d ∉ ['!', '+', '-'] := by
      rw [List.all_cons, Bool.and_eq_true] at hall
      simp [Turtle.ne_of_isDigit hall.1 (d := '!') (by decide),
        Turtle.ne_of_isDigit hall.1 (d := '+') (by decide),
        Turtle.ne_of_isDigit hall.1 (d := '-') (by decide)]
    exact Inner.readNumeric_primary hprimary hsign rfl (by decide)

theorem skipSpace_digits (hne : ds ≠ []) (hall : ds.all Char.isDigit = true) :
    Text.skipSpace false (ds ++ r) = ds ++ r := by
  cases ds with
  | nil => exact absurd rfl hne
  | cons d ds =>
    rw [List.all_cons, Bool.and_eq_true] at hall
    have hspace : Text.isSpace d = false := Turtle.isSpace_eq_false (by decide) hall.1
    have hcomment : d ≠ '#' := Turtle.ne_of_isDigit hall.1 (by decide)
    simp [Text.skipSpace, hspace, hcomment]

end Numbers

/-! ### Texts -/

section Texts

variable {r : List Char}

theorem write_plain (s : String) :
    (Literal.plain s).write = '"' :: s.toList.flatMap escapeChar ++ ['"'] := by
  have hdatatype : (Literal.plain s).datatype = Vocabulary.xsdString := rfl
  simp [Literal.write, Literal.writeWith, Literal.language?, hdatatype, writeQuoted, Literal.text]

/-- A written text does not open a text over several lines, because a blank follows it. -/
theorem readTextIn_write (s : String) :
    readTextIn '"' { rest := (Literal.plain s).write ++ ' ' :: r, scope } =
      some (s.toList, { rest := ' ' :: r, scope }) := by
  have hcode : ∀ a b, Text.strictCode? ['0', '0', a, b] = Text.ofHex? ['0', '0', a, b] :=
    fun _ _ => rfl
  have hshort := Text.readShort_flatMap_escapeChar hcode s.toList (' ' :: r)
  have hprefix : ['"', '"', '"'].isPrefixOf
      ('"' :: (s.toList.flatMap escapeChar ++ '"' :: ' ' :: r)) = false := by
    cases hinner : s.toList.flatMap escapeChar with
    | nil => simp [List.isPrefixOf]
    | cons c cs =>
      have hc : c ≠ '"' := Text.head?_flatMap_escapeChar_ne s.toList c (by rw [hinner]; rfl)
      simp [List.isPrefixOf, Ne.symm hc]
  have htext : (Literal.plain s).write ++ ' ' :: r =
      '"' :: (s.toList.flatMap escapeChar ++ '"' :: ' ' :: r) := by
    simp [write_plain]
  have hmark : mark (String.ofList ['"', '"', '"'])
      { rest := '"' :: (s.toList.flatMap escapeChar ++ '"' :: ' ' :: r), scope } = none := by
    simp only [mark, ofChars, String.toList_ofList, hprefix]
    rfl
  have hquote : char (· == '"')
      { rest := '"' :: (s.toList.flatMap escapeChar ++ '"' :: ' ' :: r), scope } =
      some ('"', { rest := s.toList.flatMap escapeChar ++ '"' :: ' ' :: r, scope }) := rfl
  rw [htext, readTextIn, orElse_right (bind_eq_none hmark), bind_eq hquote]
  simp only [ofChars, hshort]
  rfl

/-- A written text is read as a text without a language and without a datatype, since a point
follows it. -/
theorem readTextLiteral_write (s : String) :
    readTextLiteral { rest := (Literal.plain s).write ++ ' ' :: '.' :: r, scope } =
      some (.plain s, { rest := ' ' :: '.' :: r, scope }) := by
  have hother : readTextIn '\'' { rest := (Literal.plain s).write ++ ' ' :: '.' :: r, scope } =
      none := by
    rw [write_plain]
    exact readTextIn_none (by decide)
  have htext : readText { rest := (Literal.plain s).write ++ ' ' :: '.' :: r, scope } =
      some (s.toList, { rest := ' ' :: '.' :: r, scope }) := by
    rw [readText, orElse_right hother, readTextIn_write]
  have hblanks : blanks { rest := ' ' :: '.' :: r, scope } =
      some ((), { rest := '.' :: r, scope }) := rfl
  have hdatatype : spaced (mark "^^") { rest := '.' :: r, scope } = none :=
    spaced_none (mark_none rfl (by decide))
  have hlanguage : readLanguage { rest := '.' :: r, scope } = none := by
    rw [readLanguage, bind_eq_none (mark_none rfl (by decide))]
  rw [readTextLiteral, bind_eq htext, orElse_right, orElse_right]
  · simp only [String.ofList_toList]
    rfl
  · rw [bind_eq hblanks, bind_eq_none hlanguage]
  · rw [bind_eq hblanks, bind_eq_none hdatatype]

theorem readSlot_write (s : String) :
    readSlot ⟨(Literal.plain s).write ++ ' ' :: '.' :: r, scope⟩ =
      some (.known (.literal (.plain s)), ⟨' ' :: '.' :: r, scope⟩) := by
  have hliteral : readLiteral ⟨(Literal.plain s).write ++ ' ' :: '.' :: r, scope⟩ =
      some (.plain s, ⟨' ' :: '.' :: r, scope⟩) := orElse_left (readTextLiteral_write s)
  have hfront : (Literal.plain s).write ++ ' ' :: '.' :: r =
      '"' :: (s.toList.flatMap escapeChar ++ ['"'] ++ ' ' :: '.' :: r) := by
    rw [write_plain]
    rfl
  have hvariable : readVariable ⟨(Literal.plain s).write ++ ' ' :: '.' :: r, scope⟩ = none := by
    rw [hfront]
    exact readVariable_none (by decide) (by decide)
  have hiri : readIri ⟨(Literal.plain s).write ++ ' ' :: '.' :: r, scope⟩ = none := by
    rw [hfront]
    exact readIri_none (by decide) (by decide) (by decide)
  rw [readSlot, orElse_right (bind_eq_none hvariable), orElse_right (bind_eq_none hiri)]
  refine orElse_left ?_
  rw [bind_eq hliteral]
  rfl

end Texts

end Songbook.Sparql
