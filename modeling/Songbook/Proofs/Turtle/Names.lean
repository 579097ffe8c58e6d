import Songbook.Proofs.Turtle.Lexing
import Songbook.Turtle.Document

/-!
# Written names are read back

An identifier is written in angle brackets, or behind a prefix if its namespace is bound and
the rest can be a local name. `exists_spells_writeName` says that either way it is read as a
lexeme which stands for the identifier, whatever identifier it is: where a local name leaves
a doubt, the whole identifier is looked at, and this one is absolute.
-/

namespace Songbook.Turtle

open Rdf Text

/-! ### Local names -/

/-- A character of a local name that needs no backslash may follow in a name. -/
theorem follows_of_standsPlain {first last : Bool} {c : Char}
    (h : standsPlain first last c = true) :
    (isNameChar c || c == ':' || c == '.') = true ∧ c ≠ '%' ∧ c ≠ '\\' := by
  refine ⟨?_, ?_, ?_⟩
  · cases first <;> cases last <;>
      simp only [standsPlain, isNameChar, Bool.or_eq_true, Bool.and_eq_true, if_true] at h ⊢ <;>
      grind
  · rintro rfl
    revert h
    cases first <;> cases last <;> decide
  · rintro rfl
    revert h
    cases first <;> cases last <;> decide

/-- A point at the end of a local name needs a backslash. -/
theorem ne_point_of_standsPlain {first : Bool} {c : Char}
    (h : standsPlain first true c = true) : c ≠ '.' := by
  rintro rfl
  revert h
  cases first <;> decide

namespace LocalName

open Lexeme

theorem text_push (n : LocalName) (c : Char) : (n.push c).text = n.text ++ [c] := by
  simp [LocalName.text, LocalName.push]

theorem text_pushEscaped (n : LocalName) (c : Char) : (n.pushEscaped c).text = n.text ++ [c] := by
  simp [LocalName.text, LocalName.pushEscaped]

theorem read_plain (n : LocalName) {c : Char} (hpercent : c ≠ '%') (hslash : c ≠ '\\')
    (hc : (isNameChar c || c == ':' || c == '.') = true) (r : List Char) :
    n.read (c :: r) = (n.push c).read r := by
  rw [LocalName.read]
  · rw [if_neg (by simp [hpercent, hslash]), if_pos hc]
  all_goals
    intros
    contradiction

theorem read_escaped (n : LocalName) {c : Char} (hc : isLocalEscape c = true) (r : List Char) :
    n.read ('\\' :: c :: r) = (n.pushEscaped c).read r := by
  rw [LocalName.read, if_pos hc]

theorem read_space (n : LocalName) {b : Char} (hb : isSpace b = true) (r : List Char) :
    n.read (b :: r) = some (n, b :: r) := by
  have hname : isNameChar b = false := eq_false_of_isSpace (by decide) hb
  rcases eq_of_isSpace hb with rfl | rfl | rfl | rfl <;> simp [LocalName.read, hname]

/-- A local name is read on as it was written. A point at its end was escaped, so that it is
among the settled characters. -/
theorem read_writeLocal {first : Bool} {cs written : List Char}
    (h : writeLocal first cs = some written) (n : LocalName)
    (hn : cs = [] → n.unsettled.head? ≠ some '.') :
    ∃ n', (∀ b rest, isSpace b = true →
        LocalName.read n (written ++ b :: rest) = some (n', b :: rest)) ∧
      n'.text = n.text ++ cs ∧ n'.unsettled.head? ≠ some '.' := by
  -- the induction is on the characters, with what was read so far generalized
  induction cs generalizing first written n with
  | nil =>
    cases h
    exact ⟨n, fun _ rest hb => read_space n hb rest, by simp, hn rfl⟩
  | cons c r ih =>
    rw [writeLocal] at h
    split at h
    · rename_i hplain
      obtain ⟨behind, hbehind, rfl⟩ := Option.map_eq_some_iff.mp h
      obtain ⟨hfollows, hpercent, hslash⟩ := follows_of_standsPlain hplain
      have hlast : r = [] → (n.push c).unsettled.head? ≠ some '.' := by
        rintro rfl
        simpa [LocalName.push] using ne_point_of_standsPlain hplain
      obtain ⟨n', hread, htext, hpoint⟩ := ih hbehind (n.push c) hlast
      refine ⟨n', fun b rest hb => ?_, ?_, hpoint⟩
      · rw [List.cons_append, read_plain n hpercent hslash hfollows, hread b rest hb]
      · rw [htext, text_push, List.append_assoc, List.singleton_append]
    · split at h
      · rename_i hescape
        obtain ⟨behind, hbehind, rfl⟩ := Option.map_eq_some_iff.mp h
        have hlast : r = [] → (n.pushEscaped c).unsettled.head? ≠ some '.' := by
          simp [LocalName.pushEscaped]
        obtain ⟨n', hread, htext, hpoint⟩ := ih hbehind (n.pushEscaped c) hlast
        refine ⟨n', fun b rest hb => ?_, ?_, hpoint⟩
        · rw [List.cons_append, List.cons_append, read_escaped n hescape, hread b rest hb]
        · rw [htext, text_pushEscaped, List.append_assoc, List.singleton_append]
      · cases h

end LocalName

/-- The first character of a local name that needs no backslash begins one. -/
theorem begins_of_standsPlain {last : Bool} {c : Char} (h : standsPlain true last c = true) :
    (isNameStart c || c == ':' || c.isDigit || c == '%' || c == '\\') = true := by
  simp only [standsPlain, Bool.or_eq_true, if_true] at h ⊢
  tauto

/-- A written local name is read back whole. -/
theorem readLocal_writeLocal {cs written : List Char} (h : writeLocal true cs = some written) :
    ∃ doubtful, ∀ b rest, isSpace b = true →
      Lexeme.readLocal (written ++ b :: rest) = some (cs, doubtful, b :: rest) := by
  cases cs with
  | nil =>
    cases h
    refine ⟨false, fun b rest hb => ?_⟩
    have hbegins : (isNameStart b || b == ':' || b.isDigit || b == '%' || b == '\\') = false := by
      rcases eq_of_isSpace hb with rfl | rfl | rfl | rfl <;> decide
    simp [Lexeme.readLocal, hbegins]
  | cons c r =>
    obtain ⟨n, hread, htext, hpoint⟩ := LocalName.read_writeLocal h {} (by simp)
    have hbegins : ∃ d tail, written = d :: tail ∧
        (isNameStart d || d == ':' || d.isDigit || d == '%' || d == '\\') = true := by
      rw [writeLocal] at h
      split at h
      · rename_i hplain
        obtain ⟨behind, _, rfl⟩ := Option.map_eq_some_iff.mp h
        exact ⟨c, behind, rfl, begins_of_standsPlain hplain⟩
      · split at h
        · obtain ⟨behind, _, rfl⟩ := Option.map_eq_some_iff.mp h
          exact ⟨'\\', c :: behind, rfl, by decide⟩
        · cases h
    obtain ⟨d, tail, rfl, hd⟩ := hbegins
    -- points at the end would be left for the sentence, but all of them were escaped
    have hpoints : n.unsettled.takeWhile (· == '.') = [] := by
      cases hn : n.unsettled with
      | nil => rfl
      | cons e es => simpa [hn] using hpoint
    have hwhole : n.text = c :: r := htext
    refine ⟨n.doubtful, fun b rest hb => ?_⟩
    have hname := hread b rest hb
    rw [List.cons_append] at hname ⊢
    simp only [Lexeme.readLocal, hd, if_true, hname, Option.bind_eq_bind, Option.bind_some,
      hpoints, List.length_nil, List.drop_zero, hwhole]
    simp

/-! ### Names behind a prefix -/

/-- A prefix that is read as one: it begins and goes on like a name, and no point ends it. -/
def IsPrefix (space : List Char) : Prop :=
  space.head?.any isNameBase = true ∧ space.all Lexeme.isNameOrPoint = true ∧
    space.getLast? ≠ some '.'

instance (space : List Char) : Decidable (IsPrefix space) :=
  inferInstanceAs (Decidable (_ ∧ _ ∧ _))

theorem IsPrefix.exists_eq_cons {space : List Char} (h : IsPrefix space) :
    ∃ c r, space = c :: r ∧ isNameBase c = true := by
  obtain ⟨hfirst, -⟩ := h
  cases space with
  | nil => cases hfirst
  | cons c r => exact ⟨c, r, rfl, by simpa using hfirst⟩

theorem IsPrefix.read?_append {space : List Char} (h : IsPrefix space) (cs : List Char) :
    Lexeme.read? (space ++ ':' :: cs) = (Lexeme.readLocal cs).map fun (name, doubtful, rest) =>
      (Lexeme.abbreviation space name doubtful, rest) := by
  obtain ⟨c, r, rfl, hc⟩ := h.exists_eq_cons
  obtain ⟨-, hall, hlast⟩ := h
  have hopens : c ∉ ['<', '"', '\'', '@', '_'] := by
    intro hmem
    simp only [List.mem_cons, List.not_mem_nil, or_false] at hmem
    rcases hmem with rfl | rfl | rfl | rfl | rfl <;> exact absurd hc (by decide)
  have hspan : (c :: r ++ ':' :: cs).span Lexeme.isNameOrPoint = (c :: r, ':' :: cs) := by
    have hall' := List.all_eq_true.mp hall
    rw [List.span_eq_takeWhile_dropWhile, List.takeWhile_append_of_pos hall',
      List.dropWhile_append_of_pos hall']
    simp [Lexeme.isNameOrPoint, show isNameChar ':' = false by decide]
  rw [List.cons_append, read?_cons hopens, if_pos (by simp [hc]), ← List.cons_append]
  simp only [Lexeme.readName, hspan, if_neg hlast]

theorem IsPrefix.spells {space : List Char} (h : IsPrefix space) {cs written : List Char}
    (hwritten : writeLocal true cs = some written) :
    ∃ doubtful, Spells (space ++ ':' :: written) (.abbreviation space cs doubtful) := by
  obtain ⟨doubtful, hread⟩ := readLocal_writeLocal hwritten
  refine ⟨doubtful, ?_, fun b rest hb => ?_⟩
  · obtain ⟨c, r, rfl, hc⟩ := h.exists_eq_cons
    refine ⟨c, _, rfl, ?_, ?_⟩
    · exact isSpace_eq_false (by decide) hc
    · rintro rfl
      exact absurd hc (by decide)
  · rw [List.append_assoc, List.cons_append, h.read?_append, hread b rest hb]
    rfl

/-! ### Identifiers -/

theorem append_localPart? {namespaceText : String} {i : Iri} {part : List Char}
    (h : localPart? namespaceText i = some part) :
    namespaceText ++ String.ofList part = i.text := by
  unfold localPart? at h
  split at h
  · rename_i hbegin
    obtain ⟨behind, hbehind⟩ := List.isPrefixOf_iff_prefix.mp hbegin
    rw [← hbehind, List.drop_left] at h
    obtain rfl := Option.some.inj h
    rw [← String.toList_inj, String.toList_append, String.toList_ofList, hbehind]
  · cases h

/-- The prefixes as the reader binds them, the last one first. -/
def boundSpaces : List (List Char × Iri) :=
  boundPrefixes.reverse.map fun (space, name) => (space.toList, ⟨name⟩)

/-- A lexeme that stands for an identifier under the bound prefixes. -/
structure StandsFor (l : Lexeme) (i : Iri) : Prop where
  isName : (∃ text, l = .reference text) ∨
    ∃ space name doubtful, l = .abbreviation space name doubtful
  iri? : ∀ st : Reading, st.base = none → st.spaces = boundSpaces → st.iri? l = some i

/-- Every absolute identifier is written as a lexeme that stands for it. -/
theorem exists_spells_writeName {i : Iri} (h : i.Absolute) :
    ∃ l, Spells (writeName i) l ∧ StandsFor l i := by
  unfold writeName
  cases hfound : boundPrefixes.findSome? (writeAbbreviated? i) with
  | none =>
    refine ⟨.reference i.text.toList, ?_, Or.inl ⟨_, rfl⟩, fun st hbase _ => ?_⟩
    · exact spells_reference (h.not_mem (by decide)) (h.not_mem (by decide))
    · simp only [Reading.iri?, hbase, Iri.refer?, String.ofList_toList]
      exact Iri.ofString?_text h
  | some written =>
    obtain ⟨bound, hbound, hwritten⟩ := List.exists_of_findSome?_eq_some hfound
    simp only [writeAbbreviated?, Option.bind_eq_bind, Option.bind_eq_some_iff] at hwritten
    obtain ⟨part, hpart, body, hbody, hsome⟩ := hwritten
    obtain rfl := Option.some.inj hsome
    have hspaces : ∀ b ∈ boundPrefixes, IsPrefix b.1.toList ∧
        boundSpaces.lookup b.1.toList = some ⟨b.2⟩ := by decide
    obtain ⟨hbegin, hlookup⟩ := hspaces bound hbound
    obtain ⟨doubtful, hspells⟩ := hbegin.spells hbody
    refine ⟨_, hspells, Or.inr ⟨_, _, _, rfl⟩, fun st _ hst => ?_⟩
    have htext : bound.2 ++ String.ofList part = i.text := append_localPart? hpart
    simp only [Reading.iri?, hst, hlookup, Option.bind_eq_bind, Option.bind_some, htext]
    split
    · exact Iri.ofString?_text h
    · rfl

end Songbook.Turtle
