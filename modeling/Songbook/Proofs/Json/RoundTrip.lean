import Songbook.Json.Printer
import Songbook.Json.Reader
import Songbook.Number.Unsigned
import Songbook.Proofs.Turtle.Numerals

/-!
# Printed JSON documents are read back

Every text and every whole number is printed so that the reader undoes it, and arrays and objects
are made of these: `Json.read?_pretty`. The reader is given a bound on its depth, and the length
of what was printed is bound enough.
-/

namespace Songbook.Json

open Turtle (Ended continuesNumber span_isDigit all_isDigit_toDigits ne_cons_of_all_isDigit)
open Unsigned (toDigits_eq_zero_cons)

/-! ### Texts -/

/-- The letters behind a backslash, and what they stand for. -/
def letters : List (Char × Char) :=
  [('"', '"'), ('\\', '\\'), ('b', '\x08'), ('f', '\x0c'), ('n', '\n'), ('r', '\r'), ('t', '\t')]

theorem escapeChar_cases (c : Char) :
    (∃ letter, (letter, c) ∈ letters ∧ escapeChar c = ['\\', letter]) ∨
    (c.toNat < 0x20 ∧ escapeChar c = ['\\', 'u', '0', '0', Text.lowerHexDigit (c.toNat / 16),
      Text.lowerHexDigit (c.toNat % 16)]) ∨
    (c ≠ '"' ∧ c ≠ '\\' ∧ ¬ c.toNat < 0x20 ∧ escapeChar c = [c]) := by
  by_cases h1 : c = '"'
  · exact Or.inl ⟨'"', by subst h1; decide⟩
  by_cases h2 : c = '\\'
  · exact Or.inl ⟨'\\', by subst h2; decide⟩
  by_cases h3 : c = '\x08'
  · exact Or.inl ⟨'b', by subst h3; decide⟩
  by_cases h4 : c = '\x0c'
  · exact Or.inl ⟨'f', by subst h4; decide⟩
  by_cases h5 : c = '\n'
  · exact Or.inl ⟨'n', by subst h5; decide⟩
  by_cases h6 : c = '\r'
  · exact Or.inl ⟨'r', by subst h6; decide⟩
  by_cases h7 : c = '\t'
  · exact Or.inl ⟨'t', by subst h7; decide⟩
  by_cases h8 : c.toNat < 0x20
  · exact Or.inr (Or.inl ⟨h8, by simp [escapeChar, h1, h2, h3, h4, h5, h6, h7, h8]⟩)
  · exact Or.inr (Or.inr ⟨h1, h2, h8, by simp [escapeChar, h1, h2, h3, h4, h5, h6, h7, h8]⟩)

theorem readText_letter {letter c : Char} (h : (letter, c) ∈ letters) (r : List Char) :
    readText ('\\' :: letter :: r) = (readText r).map fun (cs, rest) => (c :: cs, rest) := by
  simp only [letters, List.mem_cons, List.not_mem_nil, or_false, Prod.mk.injEq] at h
  rcases h with ⟨rfl, rfl⟩ | ⟨rfl, rfl⟩ | ⟨rfl, rfl⟩ | ⟨rfl, rfl⟩ | ⟨rfl, rfl⟩ | ⟨rfl, rfl⟩ |
    ⟨rfl, rfl⟩ <;>
  · rw [readText]
    · cases readText r <;> rfl
    all_goals simp

theorem readText_self {c : Char} (hquote : c ≠ '"') (hslash : c ≠ '\\')
    (hcontrol : ¬ c.toNat < 0x20) (r : List Char) :
    readText (c :: r) = (readText r).map fun (cs, rest) => (c :: cs, rest) := by
  rw [readText]
  · rw [if_neg (by simp [hslash, hcontrol])]
    cases readText r <;> rfl
  · exact hquote
  all_goals
    intros
    contradiction

theorem readUnit_lowerHexDigits {n : Nat} (h : n < 0x20) :
    readUnit '0' '0' (Text.lowerHexDigit (n / 16)) (Text.lowerHexDigit (n % 16)) = some n := by
  have hhigh := Text.hexValue?_lowerHexDigit (n := n / 16) (by omega)
  have hlow := Text.hexValue?_lowerHexDigit (n := n % 16) (by omega)
  have hzero : Text.hexValue? '0' = some 0 := by decide
  simp only [readUnit, Text.ofHex?, List.foldlM_cons, List.foldlM_nil, hzero, hhigh, hlow,
    Option.map_some, Option.bind_eq_bind, Option.bind_some]
  change some _ = some _
  rw [Option.some.injEq]
  omega

/-- A code is no first half of a pair, whatever follows it. -/
theorem readText_code {c : Char} (h : c.toNat < 0x20) (r : List Char) :
    readText ('\\' :: 'u' :: '0' :: '0' :: Text.lowerHexDigit (c.toNat / 16) ::
      Text.lowerHexDigit (c.toNat % 16) :: r) =
      (readText r).map fun (cs, rest) => (c :: cs, rest) := by
  have hunit := readUnit_lowerHexDigits h
  have hhigh : isHighUnit c.toNat = false := by
    have : ¬ 0xD800 ≤ c.toNat := by omega
    simp [isHighUnit, this]
  have hchar := Text.charOfCode?_toNat c
  by_cases hcode : ∃ e f g k tail, r = '\\' :: 'u' :: e :: f :: g :: k :: tail
  · obtain ⟨e, f, g, k, tail, rfl⟩ := hcode
    rw [readText]
    simp only [hunit, hhigh, hchar, Option.bind_eq_bind, Option.bind_some, Bool.false_eq_true,
      if_false]
    cases readText ('\\' :: 'u' :: e :: f :: g :: k :: tail) <;> rfl
  · rw [readText]
    · simp only [hunit, hchar, Option.bind_eq_bind, Option.bind_some]
      cases readText r <;> rfl
    · intro e f g k tail hr
      exact hcode ⟨e, f, g, k, tail, hr⟩

theorem readText_escapeChar (c : Char) (r : List Char) :
    readText (escapeChar c ++ r) = (readText r).map fun (cs, rest) => (c :: cs, rest) := by
  rcases escapeChar_cases c with ⟨letter, hletter, he⟩ | ⟨hcontrol, he⟩ | ⟨h, h', h'', he⟩
  · rw [he]
    exact readText_letter hletter r
  · rw [he]
    exact readText_code hcontrol r
  · rw [he]
    exact readText_self h h' h'' r

theorem readText_flatMap_escapeChar (cs rest : List Char) :
    readText (cs.flatMap escapeChar ++ '"' :: rest) = some (cs, rest) := by
  induction cs with
  | nil => rw [List.flatMap_nil, List.nil_append, readText]
  | cons c cs ih =>
    rw [List.flatMap_cons, List.append_assoc, readText_escapeChar, ih]
    rfl

/-- A written text is a quote, and behind it the text is read to its end. -/
theorem writeText_append (s : String) (rest : List Char) :
    writeText s ++ rest = '"' :: (s.toList.flatMap escapeChar ++ '"' :: rest) := by
  simp [writeText]

/-! ### Numbers -/

theorem readDigits_append {ds rest : List Char} (hds : ds.all Char.isDigit = true) (hne : ds ≠ [])
    (h : Ended rest) : readDigits (ds ++ rest) = some (ds, rest) := by
  obtain ⟨htake, hdrop⟩ := span_isDigit hds h
  rw [readDigits, List.span_eq_takeWhile_dropWhile, htake, hdrop]
  cases ds with
  | nil => exact absurd rfl hne
  | cons d ds => rfl

theorem readWhole_toDigits (n : Nat) {rest : List Char} (h : Ended rest) :
    readWhole (Nat.toDigits 10 n ++ rest) = some (Nat.toDigits 10 n, rest) := by
  have hread := readDigits_append (all_isDigit_toDigits n) Nat.toDigits_ne_nil h
  cases hdigits : Nat.toDigits 10 n with
  | nil => exact absurd hdigits Nat.toDigits_ne_nil
  | cons c ds =>
    rw [hdigits] at hread
    by_cases hc : c = '0'
    · subst hc
      rw [toDigits_eq_zero_cons hdigits]
      rfl
    · rw [readWhole]
      · exact hread
      · rintro r heq
        exact hc (List.cons.inj heq).1

theorem readFraction_of_ended {rest : List Char} (h : Ended rest) :
    readFraction rest = some ([], rest) := by
  rw [readFraction]
  rintro r rfl
  exact absurd (h '.' rfl) (by decide)

theorem readExponent_of_ended {rest : List Char} (h : Ended rest) :
    readExponent rest = some ([], rest) := by
  unfold readExponent
  split
  · rename_i e sign r
    have he := h e rfl
    simp only [continuesNumber, Bool.or_eq_false_iff, beq_eq_false_iff_ne] at he
    rw [if_neg (by simp [he])]
  · rfl

theorem readNumber_toDigits (n : Nat) {rest : List Char} (h : Ended rest) :
    readNumber (Nat.toDigits 10 n ++ rest) = some (.integer n, rest) := by
  have hwhole := readWhole_toDigits n h
  have hvalue : Nat.ofDigitChars 10 (Nat.toDigits 10 n) 0 = n :=
    Nat.ofDigitChars_toDigits (by omega) (by omega)
  unfold readNumber
  split
  rename_i negative unsigned heq
  have hsplit : (negative, unsigned) = (false, Nat.toDigits 10 n ++ rest) := by
    rw [← heq]
    split
    · rename_i r hr
      cases hdigits : Nat.toDigits 10 n with
      | nil => exact absurd hdigits Nat.toDigits_ne_nil
      | cons c ds =>
        rw [hdigits] at hr
        have hc := ne_cons_of_all_isDigit (all_isDigit_toDigits n) (c := '-') (by decide) ds
        exact absurd (by rw [hdigits, (List.cons.inj hr).1]) hc
    · rfl
  obtain ⟨rfl, rfl⟩ := Prod.mk.inj hsplit
  simp [hwhole, readFraction_of_ended h, readExponent_of_ended h, integerOf, hvalue]

theorem readNumber_minus (n : Nat) {rest : List Char} (h : Ended rest) :
    readNumber ('-' :: Nat.toDigits 10 (n + 1) ++ rest) = some (.integer (Int.negSucc n), rest) := by
  have hwhole := readWhole_toDigits (n + 1) h
  have hvalue : Nat.ofDigitChars 10 (Nat.toDigits 10 (n + 1)) 0 = n + 1 :=
    Nat.ofDigitChars_toDigits (by omega) (by omega)
  have hzero : Nat.toDigits 10 (n + 1) ≠ ['0'] := by
    intro hzero
    rw [hzero] at hvalue
    exact absurd hvalue (by simp [Nat.ofDigitChars])
  simp [readNumber, hwhole, readFraction_of_ended h, readExponent_of_ended h, integerOf, hvalue,
    hzero, Int.negSucc_eq]

theorem toList_toString_ofNat (n : Nat) :
    (toString (Int.ofNat n)).toList = Nat.toDigits 10 n := by
  simp [toString, Int.repr]

theorem toList_toString_negSucc (n : Nat) :
    (toString (Int.negSucc n)).toList = '-' :: Nat.toDigits 10 (n + 1) := by
  simp [toString, Int.repr]

/-- A whole number is read back, unless what follows goes on with it. -/
theorem readNumber_toString (n : Int) {rest : List Char} (h : Ended rest) :
    readNumber ((toString n).toList ++ rest) = some (.integer n, rest) := by
  cases n with
  | ofNat n =>
    rw [toList_toString_ofNat]
    exact readNumber_toDigits n h
  | negSucc n =>
    rw [toList_toString_negSucc]
    exact readNumber_minus n h

theorem toString_eq_cons (n : Int) :
    ∃ c cs, (toString n).toList = c :: cs ∧ (c.isDigit = true ∨ c = '-') := by
  cases n with
  | ofNat n =>
    cases hdigits : Nat.toDigits 10 n with
    | nil => exact absurd hdigits Nat.toDigits_ne_nil
    | cons c cs =>
      have hall := all_isDigit_toDigits n
      rw [hdigits, List.all_cons, Bool.and_eq_true] at hall
      exact ⟨c, cs, (toList_toString_ofNat n).trans hdigits, Or.inl hall.1⟩
  | negSucc n => exact ⟨'-', Nat.toDigits 10 (n + 1), toList_toString_negSucc n, Or.inr rfl⟩

/-! ### White space -/

theorem skipSpace_cons {c : Char} (h : isSpace c = false) (cs : List Char) :
    skipSpace (c :: cs) = c :: cs := by
  simp [skipSpace, h]

theorem skipSpace_append {blanks : List Char} (h : ∀ c ∈ blanks, isSpace c = true)
    (cs : List Char) : skipSpace (blanks ++ cs) = skipSpace cs :=
  List.dropWhile_append_of_pos h

theorem readValue_append {blanks : List Char} (h : ∀ c ∈ blanks, isSpace c = true) (depth : Nat)
    (cs : List Char) : readValue depth (blanks ++ cs) = readValue depth cs := by
  cases depth with
  | zero => rw [readValue, readValue]
  | succ depth => rw [readValue, readValue, skipSpace_append h]

theorem readField_append {blanks : List Char} (h : ∀ c ∈ blanks, isSpace c = true) (depth : Nat)
    (cs : List Char) : readField depth (blanks ++ cs) = readField depth cs := by
  cases depth with
  | zero => rw [readField, readField]
  | succ depth => rw [readField, readField, skipSpace_append h]

theorem isSpace_of_mem_newline {level : Nat} {c : Char} (h : c ∈ newline level) :
    isSpace c = true := by
  rw [newline, List.mem_cons, List.mem_replicate] at h
  rcases h with rfl | ⟨-, rfl⟩ <;> decide

theorem readValue_newline_append (depth level : Nat) (cs : List Char) :
    readValue depth (newline level ++ cs) = readValue depth cs :=
  readValue_append (fun _ => isSpace_of_mem_newline) depth cs

theorem readField_newline_append (depth level : Nat) (cs : List Char) :
    readField depth (newline level ++ cs) = readField depth cs :=
  readField_append (fun _ => isSpace_of_mem_newline) depth cs

/-! ### Documents -/

/-- A document whose numbers are all whole. -/
inductive Whole : Json → Prop
  | null : Whole .null
  | boolean (b : Bool) : Whole (.boolean b)
  | integer (n : Int) : Whole (.integer n)
  | text (s : String) : Whole (.text s)
  | array {items : List Json} (h : ∀ j ∈ items, Whole j) : Whole (.array items)
  | object {fields : List (String × Json)} (h : ∀ field ∈ fields, Whole field.2) :
      Whole (.object fields)

/-- A document that is read back from what is written, whatever follows. -/
def ReadsBack (j : Json) : Prop :=
  ∀ level depth rest, (write level j).length ≤ depth → Ended rest →
    readValue depth (write level j ++ rest) = some (j, rest)

/-- A character that a value can begin with. -/
def opens (c : Char) : Bool := !isSpace c && c != ']' && c != '\x7d'

theorem exists_write_eq_cons {j : Json} (h : Whole j) (level : Nat) :
    ∃ c cs, write level j = c :: cs ∧ opens c = true := by
  cases h with
  | null => exact ⟨'n', _, rfl, by decide⟩
  | boolean b =>
    cases b with
    | true => exact ⟨'t', _, rfl, by decide⟩
    | false => exact ⟨'f', _, rfl, by decide⟩
  | integer n =>
    obtain ⟨c, cs, hcs, hc⟩ := toString_eq_cons n
    refine ⟨c, cs, by rw [write]; exact hcs, ?_⟩
    rcases hc with hc | rfl
    · have hother (d : Char) (hd : d.isDigit = false) : c ≠ d := by
        rintro rfl
        rw [hc] at hd
        contradiction
      simp [opens, isSpace, hother]
    · decide
  | text s => exact ⟨'"', _, by rw [write]; rfl, by decide⟩
  | @array items h =>
    cases items with
    | nil => exact ⟨'[', _, by rw [write], by decide⟩
    | cons item items => exact ⟨'[', _, by rw [write]; rfl, by decide⟩
  | @object fields h =>
    cases fields with
    | nil => exact ⟨'\x7b', _, by rw [write], by decide⟩
    | cons field fields => exact ⟨'\x7b', _, by rw [write]; rfl, by decide⟩

theorem readsBack_integer (n : Int) : ReadsBack (.integer n) := by
  intro level depth rest hdepth hrest
  obtain ⟨c, cs, hcs, hc⟩ := toString_eq_cons n
  have hread := readNumber_toString n hrest
  rw [write] at hdepth ⊢
  rw [hcs] at hdepth hread ⊢
  obtain ⟨depth, rfl⟩ : ∃ d, depth = d + 1 := ⟨depth - 1, by simp at hdepth; omega⟩
  have hother (d : Char) (hd : d.isDigit = false) (hminus : d ≠ '-') : c ≠ d := by
    rintro rfl
    rcases hc with hc | rfl
    · rw [hc] at hd
      contradiction
    · exact hminus rfl
  have hspace : isSpace c = false := by simp [isSpace, hother]
  rw [readValue, List.cons_append, skipSpace_cons hspace]
  rw [List.cons_append] at hread
  simp [hread, hother]

theorem readsBack_text (s : String) : ReadsBack (.text s) := by
  intro level depth rest hdepth hrest
  rw [write] at hdepth ⊢
  obtain ⟨depth, rfl⟩ : ∃ d, depth = d + 1 := ⟨depth - 1, by simp [writeText] at hdepth; omega⟩
  rw [readValue, writeText_append, skipSpace_cons (by decide)]
  simp [readText_flatMap_escapeChar]

/-- What stands between one item of a list and the next, or behind the last one. -/
theorem ended_writeItems (items : List Json) (level outer : Nat) (rest : List Char) :
    Ended (writeItems level items ++ (newline outer ++ rest)) := by
  cases items with
  | nil => exact Ended.cons (by decide)
  | cons item items =>
    rw [writeItems]
    exact Ended.cons (by decide)

theorem ended_writeFields (fields : List (String × Json)) (level outer : Nat)
    (rest : List Char) : Ended (writeFields level fields ++ (newline outer ++ rest)) := by
  cases fields with
  | nil => exact Ended.cons (by decide)
  | cons field fields =>
    rw [writeFields]
    exact Ended.cons (by decide)

theorem readItems_writeItems {items : List Json} (h : ∀ j ∈ items, ReadsBack j)
    (level outer depth : Nat) (rest : List Char)
    (hdepth : (writeItems level items).length < depth) :
    readItems depth (writeItems level items ++ (newline outer ++ ']' :: rest)) =
      some (items, rest) := by
  induction items generalizing depth with
  | nil =>
    obtain ⟨depth, rfl⟩ : ∃ d, depth = d + 1 := ⟨depth - 1, by omega⟩
    rw [readItems, writeItems, List.nil_append,
      skipSpace_append (fun _ => isSpace_of_mem_newline), skipSpace_cons (by decide)]
    rfl
  | cons item items ih =>
    obtain ⟨depth, rfl⟩ : ∃ d, depth = d + 1 := ⟨depth - 1, by omega⟩
    rw [writeItems] at hdepth ⊢
    simp only [List.cons_append, List.length_cons, List.length_append, List.append_assoc]
      at hdepth ⊢
    have hitem := h item List.mem_cons_self level depth
      (writeItems level items ++ (newline outer ++ ']' :: rest)) (by omega)
      (ended_writeItems items level outer _)
    have hitems := ih (fun j hj => h j (List.mem_cons_of_mem item hj)) depth (by omega)
    rw [readItems, skipSpace_cons (by decide)]
    simp only [readValue_newline_append, hitem, hitems, Option.bind_eq_bind, Option.bind_some]

theorem readField_writeText (name : String) {value : Json} (h : ReadsBack value)
    (level depth : Nat) {rest : List Char} (hrest : Ended rest)
    (hdepth : (write level value).length < depth) :
    readField depth (writeText name ++ (':' :: ' ' :: (write level value ++ rest))) =
      some ((name, value), rest) := by
  obtain ⟨depth, rfl⟩ : ∃ d, depth = d + 1 := ⟨depth - 1, by omega⟩
  have hblank : readValue depth (' ' :: (write level value ++ rest)) = some (value, rest) := by
    rw [← List.singleton_append, readValue_append (by simp [isSpace])]
    exact h level depth rest (by omega) hrest
  have hcolon (cs : List Char) : skipSpace (':' :: cs) = ':' :: cs := skipSpace_cons (by decide) cs
  rw [readField, writeText_append, skipSpace_cons (by decide)]
  simp only [readText_flatMap_escapeChar, hcolon, hblank, Option.bind_eq_bind, Option.bind_some,
    String.ofList_toList]

theorem readFields_writeFields {fields : List (String × Json)}
    (h : ∀ field ∈ fields, ReadsBack field.2) (level outer depth : Nat)
    (rest : List Char) (hdepth : (writeFields level fields).length < depth) :
    readFields depth (writeFields level fields ++ (newline outer ++ '\x7d' :: rest)) =
      some (fields, rest) := by
  induction fields generalizing depth with
  | nil =>
    obtain ⟨depth, rfl⟩ : ∃ d, depth = d + 1 := ⟨depth - 1, by omega⟩
    rw [readFields, writeFields, List.nil_append,
      skipSpace_append (fun _ => isSpace_of_mem_newline), skipSpace_cons (by decide)]
    rfl
  | cons field fields ih =>
    obtain ⟨name, value⟩ := field
    obtain ⟨depth, rfl⟩ : ∃ d, depth = d + 1 := ⟨depth - 1, by omega⟩
    rw [writeFields] at hdepth ⊢
    simp only [List.cons_append, List.length_cons, List.length_append, List.append_assoc,
      List.nil_append] at hdepth ⊢
    have hvalue : ReadsBack value := h (name, value) List.mem_cons_self
    have hfield := readField_writeText name hvalue level depth
      (ended_writeFields fields level outer ('\x7d' :: rest)) (by omega)
    have hfields := ih (fun field hf => h field (List.mem_cons_of_mem _ hf)) depth (by omega)
    rw [readFields, skipSpace_cons (by decide)]
    simp only [readField_newline_append, hfield, hfields, Option.bind_eq_bind, Option.bind_some]

theorem readsBack_array {items : List Json} (hwhole : ∀ j ∈ items, Whole j)
    (h : ∀ j ∈ items, ReadsBack j) : ReadsBack (.array items) := by
  intro level depth rest hdepth hrest
  cases items with
  | nil =>
    rw [write] at hdepth ⊢
    obtain ⟨depth, rfl⟩ : ∃ d, depth = d + 1 := ⟨depth - 1, by simp at hdepth; omega⟩
    rw [readValue, List.cons_append, skipSpace_cons (by decide)]
    simp [skipSpace_cons (c := ']') (by decide)]
  | cons item items =>
    rw [write] at hdepth ⊢
    simp only [List.cons_append, List.length_cons, List.length_append, List.append_assoc,
      List.length_nil, List.nil_append] at hdepth ⊢
    obtain ⟨depth, rfl⟩ : ∃ d, depth = d + 1 := ⟨depth - 1, by omega⟩
    have hitem := h item List.mem_cons_self (level + 1) depth
      (writeItems (level + 1) items ++ (newline level ++ ']' :: rest)) (by omega)
      (ended_writeItems items (level + 1) level _)
    have hitems := readItems_writeItems (fun j hj => h j (List.mem_cons_of_mem item hj))
      (level + 1) level depth rest (by omega)
    obtain ⟨c, cs, hcs, hopens⟩ := exists_write_eq_cons (hwhole item List.mem_cons_self) (level + 1)
    simp only [opens, Bool.and_eq_true, Bool.not_eq_true', bne_iff_ne] at hopens
    have hskip (tail : List Char) :
        skipSpace (newline (level + 1) ++ (write (level + 1) item ++ tail)) = c :: (cs ++ tail) := by
      rw [skipSpace_append (fun _ => isSpace_of_mem_newline), hcs, List.cons_append,
        skipSpace_cons hopens.1.1]
    rw [readValue, skipSpace_cons (by decide)]
    simp [hskip, hopens.1.2, readValue_newline_append, hitem, hitems]

theorem readsBack_object {fields : List (String × Json)}
    (h : ∀ field ∈ fields, ReadsBack field.2) : ReadsBack (.object fields) := by
  intro level depth rest hdepth hrest
  cases fields with
  | nil =>
    rw [write] at hdepth ⊢
    obtain ⟨depth, rfl⟩ : ∃ d, depth = d + 1 := ⟨depth - 1, by simp at hdepth; omega⟩
    rw [readValue, List.cons_append, skipSpace_cons (by decide)]
    simp [skipSpace_cons (c := '\x7d') (by decide)]
  | cons field fields =>
    obtain ⟨name, value⟩ := field
    rw [write] at hdepth ⊢
    simp only [List.cons_append, List.length_cons, List.length_append, List.append_assoc,
      List.length_nil, List.nil_append] at hdepth ⊢
    obtain ⟨depth, rfl⟩ : ∃ d, depth = d + 1 := ⟨depth - 1, by omega⟩
    have hvalue : ReadsBack value := h (name, value) List.mem_cons_self
    have hfield := readField_writeText name hvalue (level + 1) depth
      (ended_writeFields fields (level + 1) level ('\x7d' :: rest)) (by omega)
    have hfields := readFields_writeFields (fun f hf => h f (List.mem_cons_of_mem _ hf))
      (level + 1) level depth rest (by omega)
    have hskip (tail : List Char) :
        skipSpace (newline (level + 1) ++ (writeText name ++ tail)) =
          '"' :: (name.toList.flatMap escapeChar ++ '"' :: tail) := by
      rw [skipSpace_append (fun _ => isSpace_of_mem_newline), writeText_append,
        skipSpace_cons (by decide)]
    rw [readValue, skipSpace_cons (by decide)]
    simp [hskip, readField_newline_append, hfield, hfields]

theorem Whole.readsBack {j : Json} (h : Whole j) : ReadsBack j := by
  induction h with
  | null =>
    intro level depth rest hdepth hrest
    obtain ⟨depth, rfl⟩ : ∃ d, depth = d + 1 := ⟨depth - 1, by simp [write] at hdepth; omega⟩
    rfl
  | boolean b =>
    intro level depth rest hdepth hrest
    obtain ⟨depth, rfl⟩ : ∃ d, depth = d + 1 :=
      ⟨depth - 1, by cases b <;> simp [write] at hdepth <;> omega⟩
    cases b <;> rfl
  | integer n => exact readsBack_integer n
  | text s => exact readsBack_text s
  | array hwhole ih => exact readsBack_array hwhole ih
  | object _ ih => exact readsBack_object ih

/-- A printed document is read back, if its numbers are all whole. -/
theorem read?_pretty {j : Json} (h : Whole j) : read? j.pretty = some j := by
  have hread (depth : Nat) (hdepth : (write 0 j).length ≤ depth) :
      readValue depth (write 0 j) = some (j, []) := by
    have hback := h.readsBack 0 depth [] hdepth Ended.nil
    rwa [List.append_nil] at hback
  unfold read? pretty
  rw [String.toList_ofList]
  dsimp only
  rw [hread _ (by omega)]
  rfl

end Songbook.Json
