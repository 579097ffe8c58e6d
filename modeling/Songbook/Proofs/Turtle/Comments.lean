import Songbook.Proofs.Text.Bytes
import Songbook.Proofs.Text.Quotation
import Songbook.Proofs.Turtle.Numerals
import Songbook.Turtle.Comment

/-!
# Written documents hold no comments

Comments are taken out of the bytes of a document before anything else is read. A written
document must survive this, although its identifiers hold number signs and its texts hold
anything. `Region.Keeps` says that characters pass from one region to another unchanged; it
composes along the writer, and what a document is made of passes from plain text to plain text.
-/

namespace Songbook.Turtle

open Rdf Text

/-- Characters that take the scan from one region to another and are all kept, whatever
follows them. -/
def Region.Keeps (before : Region) (cs : List Char) (after : Region) : Prop :=
  ∀ rest, withoutComments before (bytes cs ++ rest) = bytes cs ++ withoutComments after rest

namespace Region.Keeps

theorem nil (r : Region) : r.Keeps [] r := fun _ => rfl

theorem append {a b c : Region} {cs ds : List Char} (h : a.Keeps cs b) (h' : b.Keeps ds c) :
    a.Keeps (cs ++ ds) c := by
  intro rest
  rw [bytes_append, List.append_assoc, h, h', List.append_assoc]

theorem flatMap {α : Type} {r : Region} {f : α → List Char} (as : List α)
    (h : ∀ a ∈ as, r.Keeps (f a) r) : r.Keeps (as.flatMap f) r := by
  induction as with
  | nil => exact nil r
  | cons a as ih =>
    rw [List.flatMap_cons]
    exact (h a (by simp)).append (ih fun b hb => h b (by simp [hb]))

end Region.Keeps

/-! ### Plain text -/

/-- The signs that lead the scan out of plain text, and the backslash. -/
def signs : List Nat := [92, 34, 39, 35, 60]

/-- A character that is no sign. -/
def IsOrdinary (c : Char) : Prop := c.toNat ∉ signs

instance (c : Char) : Decidable (IsOrdinary c) := inferInstanceAs (Decidable (_ ∉ _))

theorem withoutComments_plain {b : UInt8} (h : b.toNat ∉ signs) (rest : List UInt8) :
    withoutComments .plain (b :: rest) = b :: withoutComments .plain rest := by
  have hne : b ≠ 92 ∧ b ≠ 34 ∧ b ≠ 39 ∧ b ≠ 35 ∧ b ≠ 60 := by
    refine ⟨?_, ?_, ?_, ?_, ?_⟩ <;> rintro rfl <;> exact h (by decide)
  rw [withoutComments]
  · simp [hne]
  · intro _ _ hb
    exact absurd hb hne.1
  · intro _ hb
    exact absurd hb hne.2.1
  · intro _ hb
    exact absurd hb hne.2.2.1

theorem IsOrdinary.not_mem_signs {c : Char} (h : IsOrdinary c) {b : UInt8}
    (hb : b ∈ String.utf8EncodeChar c) : b.toNat ∉ signs := by
  intro hsign
  have hlt : b.toNat < 128 := by
    simp only [signs, List.mem_cons, List.not_mem_nil, or_false] at hsign
    omega
  have hc : c.toNat = b.toNat := eq_of_mem_utf8EncodeChar hlt (by rwa [UInt8.ofNat_toNat])
  exact h (hc ▸ hsign)

theorem withoutComments_plain_append {bs : List UInt8} (h : ∀ b ∈ bs, b.toNat ∉ signs)
    (rest : List UInt8) :
    withoutComments .plain (bs ++ rest) = bs ++ withoutComments .plain rest := by
  induction bs with
  | nil => rfl
  | cons b bs ih =>
    rw [List.cons_append, withoutComments_plain (h b (by simp)), ih fun x hx => h x (by simp [hx])]
    rfl

theorem IsOrdinary.keeps {c : Char} (h : IsOrdinary c) : Region.plain.Keeps [c] .plain := by
  intro rest
  rw [bytes_cons, bytes_nil, List.append_nil]
  exact withoutComments_plain_append (fun _ hb => h.not_mem_signs hb) rest

theorem IsOrdinary.of_mem {cs : List Char} (h : cs.all (fun c => decide (IsOrdinary c)) = true)
    {c : Char} (hc : c ∈ cs) : IsOrdinary c :=
  of_decide_eq_true (List.all_eq_true.mp h c hc)

theorem keeps_of_ordinary {cs : List Char} (h : ∀ c ∈ cs, IsOrdinary c) :
    Region.plain.Keeps cs .plain := by
  have hflat : cs = cs.flatMap fun c => [c] := by simp
  rw [hflat]
  exact Region.Keeps.flatMap cs fun c hc => (h c hc).keeps

/-- An ASCII character behind a backslash is kept, whatever it is. -/
theorem keeps_escape {r : Region} (hr : r = .plain ∨ ∃ quote, r = .short quote) {c : Char}
    (hc : c.toNat < 128) : r.Keeps ['\\', c] r := by
  intro rest
  have hbytes : bytes ['\\', c] = [92, UInt8.ofNat c.toNat] := by
    rw [bytes_cons, bytes_cons, bytes_nil, utf8EncodeChar_of_lt hc, List.append_nil]
    rfl
  rw [hbytes]
  rcases hr with rfl | ⟨quote, rfl⟩
  · exact withoutComments.eq_2 _ rest
  · exact withoutComments.eq_7 quote _ rest

/-! ### Angle brackets -/

theorem not_mem_bytes {c : Char} (hc : c.toNat < 128) {cs : List Char} (h : c ∉ cs) :
    UInt8.ofNat c.toNat ∉ bytes cs := by
  intro hmem
  obtain ⟨d, hd, hb⟩ := List.mem_flatMap.mp hmem
  have hcd : d.toNat = c.toNat := eq_of_mem_utf8EncodeChar hc hb
  exact h (Char.toNat_inj.mp hcd ▸ hd)

/-- What stands between angle brackets is kept if no closing bracket occurs in it. -/
theorem keeps_reference {cs : List Char} (h : '>' ∉ cs) :
    Region.plain.Keeps ('<' :: cs ++ ['>']) .plain := by
  intro rest
  have hbytes : bytes ('<' :: cs ++ ['>']) = 60 :: bytes cs ++ [62] := by
    rw [bytes_append, bytes_cons]
    rfl
  have hopen (bs : List UInt8) :
      withoutComments .plain (60 :: bs) = 60 :: withoutComments .reference bs := by
    rw [withoutComments]
    · simp
    all_goals simp
  have hinside : (62 : UInt8) ∉ bytes cs := not_mem_bytes (c := '>') (by decide) h
  rw [hbytes]
  simp only [List.cons_append, List.append_assoc, List.nil_append]
  rw [hopen, withoutComments_reference hinside, withoutComments]
  rfl

/-! ### Quotes -/

/-- A character that is neither a quote nor a backslash is kept between quotes. -/
theorem keeps_short {c : Char} (hquote : c ≠ '"') (hslash : c ≠ '\\') :
    (Region.short 34).Keeps [c] (.short 34) := by
  intro rest
  have hbytes : bytes [c] = String.utf8EncodeChar c := by
    rw [bytes_cons, bytes_nil, List.append_nil]
  have hne : ∀ b ∈ bytes [c], b ≠ 34 ∧ b ≠ 92 := by
    intro b hb
    refine ⟨?_, ?_⟩ <;> rintro rfl
    · exact not_mem_bytes (c := '"') (by decide) (by simpa using Ne.symm hquote) hb
    · exact not_mem_bytes (c := '\\') (by decide) (by simpa using Ne.symm hslash) hb
  generalize bytes [c] = bs at hne
  induction bs with
  | nil => rfl
  | cons b bs ih =>
    obtain ⟨h34, h92⟩ := hne b (by simp)
    rw [List.cons_append, withoutComments_short h34 h92, ih fun x hx => hne x (by simp [hx])]
    rfl

theorem keeps_escapeChar (c : Char) : (Region.short 34).Keeps (escapeChar c) (.short 34) := by
  have hr : (Region.short 34) = .plain ∨ ∃ quote, Region.short 34 = .short quote :=
    Or.inr ⟨34, rfl⟩
  rcases escapeChar_cases c with ⟨letter, hletter, he⟩ | ⟨hc, he⟩ | ⟨hquote, hslash, _, he⟩
  · rw [he]
    exact keeps_escape hr (escaped?_eq_some hletter).1
  · have hdigit : ∀ n, n < 16 → (Region.short 34).Keeps [upperHexDigit n] (.short 34) := by
      intro n hn
      have hne : ∀ m, m < 16 → upperHexDigit m ≠ '"' ∧ upperHexDigit m ≠ '\\' := by decide
      exact keeps_short (hne n hn).1 (hne n hn).2
    have hzero : (Region.short 34).Keeps ['0'] (.short 34) := keeps_short (by decide) (by decide)
    rw [he]
    exact (keeps_escape hr (c := 'u') (by decide)).append
      (hzero.append (hzero.append ((hdigit _ (by omega)).append (hdigit _ (by omega)))))
  · rw [he]
    exact keeps_short hquote hslash

theorem head?_bytes_flatMap_escapeChar (cs : List Char) :
    ∀ b ∈ (bytes (cs.flatMap escapeChar)).head?, b ≠ 34 := by
  intro b hb
  cases cs with
  | nil => cases hb
  | cons c cs =>
    cases he : escapeChar c with
    | nil =>
      rcases escapeChar_cases c with ⟨_, _, h⟩ | ⟨_, h⟩ | ⟨_, _, _, h⟩ <;> rw [h] at he <;> cases he
    | cons d ds =>
      have hd : d ≠ '"' := head?_escapeChar_ne c d (by simp [he])
      rw [List.flatMap_cons, he, List.cons_append, bytes_cons] at hb
      cases hbytes : String.utf8EncodeChar d with
      | nil => exact absurd hbytes String.utf8EncodeChar_ne_nil
      | cons x xs =>
        rw [hbytes] at hb
        obtain rfl : x = b := by simpa using hb
        rintro rfl
        have hd34 : d.toNat = 34 :=
          eq_of_mem_utf8EncodeChar (n := 34) (by decide) (by rw [hbytes]; simp)
        exact hd (Char.toNat_inj.mp hd34)

/-- A written text is kept. What follows it decides whether an empty text is one, or the
beginning of a text over several lines. -/
theorem keeps_writeQuoted (s : String) {c : Char} (hc : IsOrdinary c) :
    Region.plain.Keeps (writeQuoted s ++ [c]) .plain := by
  intro rest
  have hbytes : bytes (writeQuoted s ++ [c]) ++ rest =
      34 :: (bytes (s.toList.flatMap escapeChar) ++ 34 :: (bytes [c] ++ rest)) := by
    simp only [writeQuoted, List.cons_append, List.append_assoc, bytes_cons '"', bytes_append]
    rfl
  -- two quotes in a row would open a text over several lines
  have hshort : ∀ r, bytes (s.toList.flatMap escapeChar) ++ 34 :: (bytes [c] ++ rest) ≠
      34 :: 34 :: r := by
    intro r heq
    have hhead := head?_bytes_flatMap_escapeChar s.toList
    cases hinner : bytes (s.toList.flatMap escapeChar) with
    | nil =>
      rw [hinner, List.nil_append, List.cons.injEq] at heq
      cases hfirst : bytes [c] with
      | nil => simp [bytes, String.utf8EncodeChar_ne_nil] at hfirst
      | cons b bs =>
        have hb : b ∈ String.utf8EncodeChar c := by
          have : b ∈ bytes [c] := by simp [hfirst]
          simpa [bytes] using this
        rw [hfirst] at heq
        have hb34 : b = 34 := (List.cons.inj heq.2).1
        exact hc.not_mem_signs hb (by rw [hb34]; decide)
    | cons b bs =>
      rw [hinner] at hhead heq
      exact hhead b rfl (List.cons.inj heq).1
  have hinside := Region.Keeps.flatMap s.toList fun a _ => keeps_escapeChar a
  have hclose (bs : List UInt8) :
      withoutComments (.short 34) (34 :: bs) = 34 :: withoutComments .plain bs := by
    rw [withoutComments]
    · rfl
    · intro _ _ h92
      cases h92
  rw [hbytes, withoutComments_quote hshort, hinside, hclose, hc.keeps rest]
  simp only [writeQuoted, List.cons_append, List.append_assoc, bytes_cons '"', bytes_append]
  rfl

/-! ### The writer -/

/-- A character of a local name that needs no backslash is ordinary. -/
theorem IsOrdinary.of_standsPlain {first last : Bool} {c : Char}
    (h : standsPlain first last c = true) : IsOrdinary c := by
  intro hsign
  have hsigns : c = '\\' ∨ c = '"' ∨ c = '\'' ∨ c = '#' ∨ c = '<' := by
    simp only [signs, List.mem_cons, List.not_mem_nil, or_false] at hsign
    simp only [← Char.toNat_inj]
    exact hsign
  have hfalse : ∀ d, d = '\\' ∨ d = '"' ∨ d = '\'' ∨ d = '#' ∨ d = '<' →
      ∀ f l, standsPlain f l d = false := by
    rintro d (rfl | rfl | rfl | rfl | rfl) <;> decide
  rw [hfalse c hsigns] at h
  cases h

/-- The characters that a backslash makes part of a local name are ASCII. -/
theorem lt_of_isLocalEscape {c : Char} (h : isLocalEscape c = true) : c.toNat < 128 := by
  have hall : "_~.-!$&'()*+,;=/?#@%".toList.all (fun d => decide (d.toNat < 128)) = true := by
    decide
  exact of_decide_eq_true (List.all_eq_true.mp hall c (List.contains_iff_mem.mp h))

theorem keeps_writeLocal {first : Bool} {cs written : List Char}
    (h : writeLocal first cs = some written) : Region.plain.Keeps written .plain := by
  induction cs generalizing first written with
  | nil =>
    cases h
    exact Region.Keeps.nil _
  | cons c r ih =>
    rw [writeLocal] at h
    split at h
    · rename_i hplain
      obtain ⟨rest, hrest, rfl⟩ := Option.map_eq_some_iff.mp h
      exact (IsOrdinary.of_standsPlain hplain).keeps.append (ih hrest)
    · split at h
      · rename_i hescape
        obtain ⟨rest, hrest, rfl⟩ := Option.map_eq_some_iff.mp h
        exact (keeps_escape (Or.inl rfl) (lt_of_isLocalEscape hescape)).append (ih hrest)
      · cases h

theorem keeps_writeIri {i : Iri} (h : i.Absolute) : Region.plain.Keeps (writeIri i) .plain :=
  keeps_reference (h.not_mem (by decide))

theorem keeps_writeName {i : Iri} (h : i.Absolute) : Region.plain.Keeps (writeName i) .plain := by
  unfold writeName
  cases hfound : boundPrefixes.findSome? (writeAbbreviated? i) with
  | none => exact keeps_writeIri h
  | some written =>
    obtain ⟨bound, hbound, hwritten⟩ := List.exists_of_findSome?_eq_some hfound
    simp only [writeAbbreviated?, Option.bind_eq_bind, Option.bind_eq_some_iff] at hwritten
    obtain ⟨part, _, body, hbody, hsome⟩ := hwritten
    obtain rfl := Option.some.inj hsome
    have hspaces : boundPrefixes.all (fun b =>
        (b.1.toList ++ [':']).all fun c => decide (IsOrdinary c)) = true := by decide
    have hspace : ∀ c ∈ bound.1.toList ++ [':'], IsOrdinary c := fun c hc =>
      IsOrdinary.of_mem (List.all_eq_true.mp hspaces bound hbound) hc
    have hkeeps := (keeps_of_ordinary hspace).append (keeps_writeLocal hbody)
    simpa using hkeeps

theorem keeps_writeProperty {i : Iri} (h : i.Absolute) :
    Region.plain.Keeps (writeProperty i) .plain := by
  unfold writeProperty
  split
  · exact IsOrdinary.keeps (c := 'a') (by decide)
  · exact keeps_writeName h

theorem IsOrdinary.of_isDigit {c : Char} (h : c.isDigit = true) : IsOrdinary c :=
  IsOrdinary.of_standsPlain (show standsPlain true true c = true by simp [standsPlain, h])

theorem isOrdinary_of_mem_text {n : Int64} {c : Char}
    (h : c ∈ (Literal.integer n).text.toList) : IsOrdinary c := by
  rw [Literal.toList_text_integer, ← signOf, List.mem_append] at h
  rcases h with h | h
  · rcases signOf_cases n with hsign | hsign
    · simp [hsign] at h
    · obtain rfl : c = '-' := by simpa [hsign] using h
      decide
  · exact IsOrdinary.of_isDigit (List.all_eq_true.mp (all_isDigit_toDigits _) c h)

/-- A written term is kept with what follows it. -/
theorem keeps_writeTerm {t : Term} (h : t.Writable) {c : Char} (hc : IsOrdinary c) :
    Region.plain.Keeps (writeTerm t ++ [c]) .plain := by
  cases t with
  | node n =>
    cases n with
    | iri i => exact (keeps_writeName h).append hc.keeps
    | blank k => exact absurd h id
  | literal l =>
    cases l with
    | plain s =>
      rw [writeTerm, writeLiteral_plain]
      exact keeps_writeQuoted s hc
    | integer n =>
      rw [writeTerm, writeLiteral_integer]
      exact (keeps_of_ordinary fun d => isOrdinary_of_mem_text).append hc.keeps
    | _ => exact absurd h id

theorem keeps_writePair {t : Triple} (h : t.Writable) {c : Char} (hc : IsOrdinary c) :
    Region.plain.Keeps (writePair t ++ [c]) .plain := by
  have hblank : Region.plain.Keeps [' '] .plain := IsOrdinary.keeps (by decide)
  have hpair := (keeps_writeProperty h.predicate).append
    (hblank.append (keeps_writeTerm h.object hc))
  simpa [writePair] using hpair

theorem keeps_writeStatement {t : Triple} (h : t.Writable) {c : Char} (hc : IsOrdinary c) :
    Region.plain.Keeps (writeStatement t ++ [c]) .plain := by
  have hblank : Region.plain.Keeps [' '] .plain := IsOrdinary.keeps (by decide)
  have hsubject : Region.plain.Keeps (writeNode t.subject) .plain := by
    have hwritable := h.subject
    cases hs : t.subject with
    | iri i => exact keeps_writeName (by simpa [hs, Node.Writable] using hwritable)
    | blank k => simp [hs, Node.Writable] at hwritable
  have hstatement := hsubject.append (hblank.append (keeps_writePair h hc))
  simpa [writeStatement] using hstatement

theorem keeps_marks (marks : List Char)
    (h : marks.all (fun c => decide (IsOrdinary c)) = true) {cs : List Char}
    (hcs : ∀ c, IsOrdinary c → Region.plain.Keeps (cs ++ [c]) .plain) :
    Region.plain.Keeps (cs ++ ' ' :: marks) .plain := by
  have hmarks := (hcs ' ' (by decide)).append (keeps_of_ordinary fun _ => IsOrdinary.of_mem h)
  simpa using hmarks

/-- The statements behind a triple are kept with the term that they follow. -/
theorem keeps_writeAfter {cs : List Char}
    (hcs : ∀ c, IsOrdinary c → Region.plain.Keeps (cs ++ [c]) .plain) (previous : Triple)
    {ts : List Triple} (h : ∀ t ∈ ts, t.Writable) :
    Region.plain.Keeps (cs ++ writeAfter previous ts) .plain := by
  induction ts generalizing cs previous with
  | nil => exact keeps_marks ".\n".toList (by decide) hcs
  | cons t ts ih =>
    have ht : t.Writable := h t (by simp)
    have hts : ∀ u ∈ ts, u.Writable := fun u hu => h u (by simp [hu])
    rw [writeAfter]
    split
    · split
      · have hcomma := keeps_marks ", ".toList (by decide) hcs
        have hrest := ih (fun c hc => keeps_writeTerm ht.object hc) t hts
        simpa using hcomma.append hrest
      · have hsemicolon := keeps_marks ";\n\t".toList (by decide) hcs
        have hrest := ih (fun c hc => keeps_writePair ht hc) t hts
        simpa using hsemicolon.append hrest
    · have hpoint := keeps_marks ".\n".toList (by decide) hcs
      have hrest := ih (fun c hc => keeps_writeStatement ht hc) t hts
      simpa using hpoint.append hrest

theorem keeps_writeDirective {bound : String × String}
    (hordinary : ∀ c ∈ bound.1.toList, IsOrdinary c) (hspace : '>' ∉ bound.2.toList) :
    Region.plain.Keeps (writeDirective bound) .plain := by
  have hword : Region.plain.Keeps "@prefix ".toList .plain :=
    keeps_of_ordinary fun _ => IsOrdinary.of_mem (by decide)
  have hcolon : Region.plain.Keeps [':', ' '] .plain :=
    keeps_of_ordinary fun _ => IsOrdinary.of_mem (by decide)
  have hpoint : Region.plain.Keeps [' ', '.', '\n'] .plain :=
    keeps_of_ordinary fun _ => IsOrdinary.of_mem (by decide)
  have hopen := hword.append ((keeps_of_ordinary hordinary).append hcolon)
  have hdirective := hopen.append ((keeps_reference hspace).append hpoint)
  have hbracket : ": <".toList = [':', ' '] ++ ['<'] := by decide
  have hend : "> .\n".toList = ['>'] ++ [' ', '.', '\n'] := by decide
  unfold writeDirective
  rw [hbracket, hend]
  simpa only [List.append_assoc, List.cons_append, List.nil_append] using hdirective

theorem keeps_boundPrefixes : Region.plain.Keeps (boundPrefixes.flatMap writeDirective) .plain := by
  have hprefixes : boundPrefixes.all (fun b =>
      b.1.toList.all fun c => decide (IsOrdinary c)) = true := by decide
  have hordinary : ∀ b ∈ boundPrefixes, ∀ c ∈ b.1.toList, IsOrdinary c := fun b hb c hc =>
    IsOrdinary.of_mem (List.all_eq_true.mp hprefixes b hb) hc
  have hspace : ∀ b ∈ boundPrefixes, '>' ∉ b.2.toList := by decide +kernel
  exact Region.Keeps.flatMap boundPrefixes fun b hb =>
    keeps_writeDirective (hordinary b hb) (hspace b hb)

/-- A written document is kept whole. -/
theorem keeps_writeTriples {ts : List Triple} (h : ∀ t ∈ ts, t.Writable) :
    Region.plain.Keeps (writeTriples ts) .plain := by
  cases ts with
  | nil => exact Region.Keeps.nil _
  | cons t ts =>
    have hstatement := fun c => keeps_writeStatement (h t (by simp)) (c := c)
    have hts : ∀ u ∈ ts, u.Writable := fun u hu => h u (by simp [hu])
    simpa [writeTriples] using keeps_boundPrefixes.append (keeps_writeAfter hstatement t hts)

/-- No comment is taken out of a written document. -/
theorem withoutComments_bytes_writeTriples {ts : List Triple} (h : ∀ t ∈ ts, t.Writable) :
    withoutComments .plain (bytes (writeTriples ts)) = bytes (writeTriples ts) := by
  have hkeeps := keeps_writeTriples h []
  simpa [withoutComments] using hkeeps

end Songbook.Turtle
