import Mathlib.Data.List.TakeDrop
import Mathlib.Data.List.TakeWhile
import Songbook.Iri.Reference

/-!
# The alphabet of absolute identifiers

An absolute identifier is the concatenation of its parts with their delimiters, and every part
is checked character by character. Hence each of its characters belongs to a fixed alphabet,
which leaves out white space, angle brackets, quotes and the backslash. This is why such an
identifier can be written between angle brackets as it is.
-/

namespace Songbook.Iri

/-- The characters of which identifiers are made. -/
def isLetter (c : Char) : Bool :=
  isCommon c || isPrivate c || c == '%' || c == '#' || c == '[' || c == ']'

/-- Every character of a text belongs to the alphabet. -/
def Spelled (cs : List Char) : Prop := ∀ c ∈ cs, isLetter c = true

namespace Spelled

@[simp] theorem nil : Spelled [] := by simp [Spelled]

@[simp] theorem cons_iff {c : Char} {cs : List Char} :
    Spelled (c :: cs) ↔ isLetter c = true ∧ Spelled cs := by
  simp [Spelled]

@[simp] theorem append_iff {cs ds : List Char} : Spelled (cs ++ ds) ↔ Spelled cs ∧ Spelled ds := by
  simp [Spelled, or_imp, forall_and]

/-- A text whose characters all pass a test belongs to the alphabet if the test is narrower. -/
theorem of_all {test : Char → Bool} {cs : List Char} (h : cs.all test = true)
    (hle : ∀ c, test c = true → isLetter c = true) : Spelled cs :=
  fun c hc => hle c (List.all_eq_true.mp h c hc)

end Spelled

/-! ### Classes of characters -/

theorem isLetter_of_isCommon {c : Char} (h : isCommon c = true) : isLetter c = true := by
  simp [isLetter, h]

theorem isLetter_of_isPlain {c : Char} (h : isPlain c = true) : isLetter c = true :=
  isLetter_of_isCommon (by simp [isCommon, h])

theorem isLetter_of_isAlphanum {c : Char} (h : c.isAlphanum = true) : isLetter c = true :=
  isLetter_of_isPlain (by simp [isPlain, h])

theorem isLetter_of_isDigit {c : Char} (h : c.isDigit = true) : isLetter c = true :=
  isLetter_of_isAlphanum (by simp [Char.isAlphanum, h])

theorem isAlphanum_of_isHexDigit {c : Char} (h : Text.isHexDigit c = true) :
    c.isAlphanum = true := by
  have hle (a b : Char) (ha : a ≤ c) (hb : c ≤ b) : a.toNat ≤ c.toNat ∧ c.toNat ≤ b.toNat :=
    ⟨ha, hb⟩
  have hrange : c.isDigit = true ∨ ('a'.toNat ≤ c.toNat ∧ c.toNat ≤ 'f'.toNat) ∨
      ('A'.toNat ≤ c.toNat ∧ c.toNat ≤ 'F'.toNat) := by
    simp only [Text.isHexDigit, Text.hexValue?] at h
    split at h
    · exact Or.inl (by assumption)
    · split at h
      · rename_i hc
        exact Or.inr (Or.inl (hle _ _ hc.1 hc.2))
      · split at h
        · rename_i hc
          exact Or.inr (Or.inr (hle _ _ hc.1 hc.2))
        · cases h
  rcases hrange with hd | hl | hu
  · simp [Char.isAlphanum, hd]
  · have : 'a'.toNat ≤ c.toNat ∧ c.toNat ≤ 'z'.toNat := ⟨hl.1, Nat.le_trans hl.2 (by decide)⟩
    have hlower : c.isLower = true := by
      change (decide ('a'.val ≤ c.val) && decide (c.val ≤ 'z'.val)) = true
      simpa [UInt32.le_iff_toNat_le] using this
    have halpha : c.isAlpha = (c.isUpper || c.isLower) := rfl
    simp [Char.isAlphanum, halpha, hlower]
  · have : 'A'.toNat ≤ c.toNat ∧ c.toNat ≤ 'Z'.toNat := ⟨hu.1, Nat.le_trans hu.2 (by decide)⟩
    have hupper : c.isUpper = true := by
      change decide ('A'.val ≤ c.val ∧ c.val ≤ 'Z'.val) = true
      simpa [UInt32.le_iff_toNat_le] using this
    have halpha : c.isAlpha = (c.isUpper || c.isLower) := rfl
    simp [Char.isAlphanum, halpha, hupper]

theorem isLetter_of_isHexDigit {c : Char} (h : Text.isHexDigit c = true) : isLetter c = true :=
  isLetter_of_isAlphanum (isAlphanum_of_isHexDigit h)

theorem isLetter_of_isSchemeChar {c : Char} (h : isSchemeChar c = true) : isLetter c = true := by
  simp only [isSchemeChar, Bool.or_eq_true, beq_iff_eq] at h
  rcases h with ((h | rfl) | rfl) | rfl
  · exact isLetter_of_isAlphanum h
  all_goals decide

/-- A part whose characters are allowed or written with a percent sign is spelled, if every
allowed character is a letter. -/
theorem Spelled.of_allAllowed {allowed : Char → Bool} {cs : List Char}
    (hle : ∀ c, allowed c = true → isLetter c = true) (h : allAllowed allowed cs = true) :
    Spelled cs := by
  fun_induction allAllowed allowed cs with
  | case1 => simp
  | case2 a b r ih =>
    simp only [Bool.and_eq_true] at h
    simp [isLetter_of_isHexDigit h.1.1, isLetter_of_isHexDigit h.1.2, ih h.2,
      show isLetter '%' = true by decide]
  | case3 c r _ ih =>
    simp only [Bool.and_eq_true] at h
    simp [hle c h.1.2, ih h.2]

/-! ### Hosts -/

/-- What is read off the front is spelled: the text is a spelled part and the rest. -/
def Consumes (cs rest : List Char) : Prop := ∃ front, cs = front ++ rest ∧ Spelled front

namespace Consumes

theorem refl (cs : List Char) : Consumes cs cs := ⟨[], rfl, Spelled.nil⟩

theorem trans {a b c : List Char} (h : Consumes a b) (h' : Consumes b c) : Consumes a c := by
  obtain ⟨u, rfl, hu⟩ := h
  obtain ⟨v, rfl, hv⟩ := h'
  exact ⟨u ++ v, by simp, by simp [hu, hv]⟩

theorem cons {c : Char} {r : List Char} (h : isLetter c = true) : Consumes (c :: r) r :=
  ⟨[c], rfl, by simp [h]⟩

theorem dropWhile {test : Char → Bool} (hle : ∀ c, test c = true → isLetter c = true)
    (cs : List Char) : Consumes cs (cs.dropWhile test) :=
  ⟨cs.takeWhile test, List.takeWhile_append_dropWhile.symm,
    Spelled.of_all (List.all_takeWhile) hle⟩

theorem spelled {cs rest : List Char} (h : Consumes cs rest) (hrest : Spelled rest) :
    Spelled cs := by
  obtain ⟨front, rfl, hfront⟩ := h
  simp [hfront, hrest]

end Consumes

theorem consumes_of_readOctet {cs rest : List Char} (h : readOctet cs = some rest) :
    Consumes cs rest := by
  simp only [readOctet] at h
  split at h
  · cases h
  · cases h
    exact Consumes.dropWhile (fun _ => isLetter_of_isDigit) cs

/-- A group behind a point. -/
private theorem consumes_of_point {cs rest a : List Char} {point : Option (List Char)}
    (hpoint : ∀ r, point = some r → cs = '.' :: r) (ha : Consumes a cs)
    (h : point.bind readOctet = some rest) : Consumes a rest := by
  obtain ⟨r, hr, hrest⟩ := Option.bind_eq_some_iff.mp h
  rw [hpoint r hr] at ha
  exact (ha.trans (Consumes.cons (by decide))).trans (consumes_of_readOctet hrest)

theorem consumes_of_readOctets {cs rest : List Char} (h : readOctets cs = some rest) :
    Consumes cs rest := by
  simp only [readOctets, Option.bind_eq_bind] at h
  obtain ⟨a, ha, h⟩ := Option.bind_eq_some_iff.mp h
  obtain ⟨b, hb, h⟩ := Option.bind_eq_some_iff.mp h
  obtain ⟨c, hc, hd⟩ := Option.bind_eq_some_iff.mp h
  refine consumes_of_point ?_ (consumes_of_point ?_
    (consumes_of_point ?_ (consumes_of_readOctet ha) hb) hc) hd
  -- each of the three points is read in the same way
  all_goals
    intro r hr
    split at hr
    · cases hr
      rfl
    · cases hr

theorem consumes_of_readGroup {cs rest : List Char} (h : readGroup cs = some rest) :
    Consumes cs rest := by
  simp only [readGroup] at h
  split at h
  · cases h
  · cases h
    exact Consumes.dropWhile (fun _ => isLetter_of_isHexDigit) cs

theorem consumes_readGroups (first : Bool) (room : Nat) (cs : List Char) :
    Consumes cs (readGroups first room cs).2.2 := by
  -- the induction is on the room for groups, which bounds how often the reader goes on
  induction room generalizing first cs with
  | zero => exact Consumes.refl cs
  | succ room ih =>
    simp only [readGroups]
    split
    · exact Consumes.refl cs
    · rename_i inner hstart
      have hinner : Consumes cs inner := by
        split at hstart
        · cases hstart; exact Consumes.refl cs
        · split at hstart
          · cases hstart; exact Consumes.cons (by decide)
          · cases hstart
      split
      · rename_i rest hoctets
        split at hoctets
        · exact hinner.trans (consumes_of_readOctets hoctets)
        · cases hoctets
      · split
        · rename_i rest hgroup
          exact (hinner.trans (consumes_of_readGroup hgroup)).trans (ih false rest)
        · exact Consumes.refl cs

theorem spelled_of_isAddress {cs : List Char} (h : isAddress cs = true) : Spelled cs := by
  have hread := consumes_readGroups true 8 cs
  simp only [isAddress] at h
  split at h
  · rename_i heq
    rw [heq, List.isEmpty_iff.mp h] at hread
    exact hread.spelled Spelled.nil
  · rename_i count rest _ heq
    have htail := consumes_readGroups true (7 - count) rest
    rw [List.isEmpty_iff.mp h] at htail
    rw [heq] at hread
    exact hread.spelled (by simp [htail.spelled Spelled.nil, show isLetter ':' = true by decide])
  · cases h

/-- A text that is split by `span` is put together again from its two sides. -/
theorem eq_append_of_span {test : Char → Bool} {cs a b : List Char} (h : cs.span test = (a, b)) :
    cs = a ++ b ∧ a.all test = true := by
  rw [List.span_eq_takeWhile_dropWhile] at h
  cases h
  exact ⟨List.takeWhile_append_dropWhile.symm, List.all_takeWhile⟩

theorem spelled_of_isLaterAddress {cs : List Char} (h : isLaterAddress cs = true) :
    Spelled cs := by
  simp only [isLaterAddress] at h
  split at h
  · rename_i version rest hspan
    obtain ⟨rfl, hversion⟩ := eq_append_of_span hspan
    simp only [Bool.and_eq_true] at h
    have hrest : Spelled rest := by
      refine Spelled.of_all h.2 fun c hc => ?_
      simp only [Bool.or_eq_true, beq_iff_eq, Bool.and_eq_true] at hc
      rcases hc with rfl | hc
      · decide
      · exact isLetter_of_isPlain hc.1
    simp [Spelled.of_all hversion (fun _ => isLetter_of_isHexDigit), hrest,
      show isLetter '.' = true by decide]
  · cases h

/-- A port is nothing, or a colon and digits. -/
private theorem spelled_of_port {cs : List Char}
    (h : (match cs with
      | [] => true
      | ':' :: digits => digits.all Char.isDigit
      | _ => false) = true) : Spelled cs := by
  split at h
  · exact Spelled.nil
  · simp [Spelled.of_all h (fun _ => isLetter_of_isDigit), show isLetter ':' = true by decide]
  · cases h

/-- The part of a host in brackets is an address. -/
private theorem spelled_of_literal {cs : List Char}
    (h : (match cs with
      | 'v' :: later => isLaterAddress later
      | 'V' :: later => isLaterAddress later
      | _ => isAddress cs) = true) : Spelled cs := by
  split at h
  · simp [spelled_of_isLaterAddress h, show isLetter 'v' = true by decide]
  · simp [spelled_of_isLaterAddress h, show isLetter 'V' = true by decide]
  · exact spelled_of_isAddress h

theorem spelled_of_isHost {cs : List Char} (h : isHost cs = true) : Spelled cs := by
  simp only [isHost] at h
  split at h
  · split at h
    · rename_i r _ literal rest hspan
      simp only [Bool.and_eq_true] at h
      rw [(eq_append_of_span hspan).1]
      simp [spelled_of_literal h.2, spelled_of_port h.1, show isLetter '[' = true by decide,
        show isLetter ']' = true by decide]
    · cases h
  · simp only [Bool.and_eq_true] at h
    have hcs : cs = cs.takeWhile (· != ':') ++ cs.dropWhile (· != ':') :=
      List.takeWhile_append_dropWhile.symm
    rw [hcs]
    simp only [Spelled.append_iff]
    exact ⟨Spelled.of_allAllowed (fun _ => isLetter_of_isPlain) h.1, spelled_of_port h.2⟩

theorem spelled_of_isAuthority {cs : List Char} (h : isAuthority cs = true) : Spelled cs := by
  simp only [isAuthority] at h
  split at h
  · rename_i user host hspan
    simp only [Bool.and_eq_true] at h
    rw [(eq_append_of_span hspan).1]
    have huser : Spelled user := by
      refine Spelled.of_allAllowed (fun c hc => ?_) h.1
      simp only [Bool.or_eq_true, beq_iff_eq] at hc
      rcases hc with hc | rfl
      · exact isLetter_of_isPlain hc
      · decide
    simp [huser, spelled_of_isHost h.2, show isLetter '@' = true by decide]
  · exact spelled_of_isHost h

/-! ### Parts -/

theorem splitMarked_append (marker : Char) (stop : Char → Bool) (cs : List Char) :
    ((splitMarked marker stop cs).1.elim [] (marker :: ·)) ++ (splitMarked marker stop cs).2 =
      cs := by
  unfold splitMarked
  split
  · split
    · rename_i h
      subst h
      simp [List.takeWhile_append_dropWhile]
    · rfl
  · rfl

/-- What stands in front of a marked part that was found is a text without its stop class. -/
theorem head_splitMarked {marker : Char} {stop : Char → Bool} {cs : List Char}
    (h : ∀ c ∈ cs.head?, c = marker ∨ stop c = true) :
    ∀ c ∈ (splitMarked marker stop cs).2.head?, stop c = true := by
  intro c hc
  unfold splitMarked at hc
  split at hc
  · rename_i d r
    split at hc
    · have hstop := List.head?_dropWhile_not (!stop ·) r
      rw [Option.mem_def.mp hc] at hstop
      simpa using hstop
    · rename_i hd
      obtain rfl : d = c := by simpa using hc
      exact (h d rfl).resolve_left hd
  · cases hc

/-- A fragment takes everything, if a number sign is the only thing that can come. -/
theorem splitMarked_fragment {cs : List Char} (h : ∀ c ∈ cs.head?, c = '#') :
    (splitMarked '#' (fun _ => false) cs).2 = [] := by
  cases cs with
  | nil => rfl
  | cons c r =>
    obtain rfl : c = '#' := h c rfl
    have hall : r.dropWhile (fun _ => true) = [] := List.dropWhile_eq_nil_iff.mpr (by simp)
    simp [splitMarked, hall]

/-- The path, the query and the fragment make up what follows the authority. -/
theorem splitTail_append (cs : List Char) :
    let tail := cs.dropWhile (fun c => !(c == '?' || c == '#'))
    let query := splitMarked '?' (· == '#') tail
    let fragment := splitMarked '#' (fun _ => false) query.2
    cs.takeWhile (fun c => !(c == '?' || c == '#')) ++
      (query.1.elim [] ('?' :: ·) ++ fragment.1.elim [] ('#' :: ·)) = cs := by
  intro tail query fragment
  have htail : ∀ c ∈ tail.head?, c = '?' ∨ (c == '#') = true := by
    intro c hc
    have hstop := List.head?_dropWhile_not (fun c => !(c == '?' || c == '#')) cs
    rw [Option.mem_def.mp hc] at hstop
    simpa [or_iff_not_imp_left] using hstop
  have hquery : ∀ c ∈ query.2.head?, c = '#' := fun c hc => by
    simpa using head_splitMarked htail c hc
  have hfragment : fragment.1.elim [] ('#' :: ·) = query.2 := by
    have h := splitMarked_append '#' (fun _ => false) query.2
    rwa [splitMarked_fragment hquery, List.append_nil] at h
  rw [hfragment, splitMarked_append '?' (· == '#') tail]
  exact List.takeWhile_append_dropWhile

theorem toChars_splitRest (scheme : Option (List Char)) (cs : List Char) :
    (splitRest scheme cs).toChars = scheme.elim [] (· ++ [':']) ++ cs := by
  unfold splitRest
  split
  rename_i authority after hsplit
  have hauthority : authority.elim [] ('/' :: '/' :: ·) ++ after = cs := by
    split at hsplit <;> cases hsplit
    · simp [List.takeWhile_append_dropWhile]
    · rfl
  have htail := splitTail_append after
  simp only [Parts.toChars, List.append_assoc] at htail ⊢
  rw [htail, hauthority]

/-- A scheme stands before the first colon and is made of the characters of schemes. -/
theorem eq_append_of_splitScheme {cs scheme rest : List Char}
    (h : splitScheme cs = some (scheme, rest)) :
    cs = scheme ++ ':' :: rest ∧ scheme.all isSchemeChar = true := by
  simp only [splitScheme] at h
  split at h
  · split at h
    · split at h
      · rename_i hspan
        cases h
        exact eq_append_of_span hspan
      · cases h
    · cases h
  · cases h

theorem toChars_ofChars (cs : List Char) : (Parts.ofChars cs).toChars = cs := by
  unfold Parts.ofChars
  split
  · rename_i scheme rest hscheme
    rw [toChars_splitRest, (eq_append_of_splitScheme hscheme).1]
    simp
  · rw [toChars_splitRest]
    rfl

/-- The scheme of a reference is made of the characters of schemes. -/
theorem spelled_scheme {cs scheme : List Char} (h : (Parts.ofChars cs).scheme = some scheme) :
    Spelled scheme := by
  unfold Parts.ofChars at h
  split at h
  · rename_i hscheme
    simp only [splitRest, Option.some.injEq] at h
    have hall := (eq_append_of_splitScheme hscheme).2
    exact h ▸ Spelled.of_all hall (fun _ => isLetter_of_isSchemeChar)
  · simp [splitRest] at h

/-- Well-formed parts behind a spelled scheme are spelled with their delimiters. -/
theorem Parts.spelled_toChars {p : Parts} (h : p.wellFormed = true)
    (hscheme : ∀ s ∈ p.scheme, Spelled s) : Spelled p.toChars := by
  obtain ⟨scheme, authority, path, query, fragment⟩ := p
  simp only [Parts.wellFormed, Bool.and_eq_true] at h
  obtain ⟨⟨⟨hauthority, hpath⟩, hquery⟩, hfragment⟩ := h
  simp only [Parts.toChars, Spelled.append_iff]
  -- scheme, authority, query and fragment each come with a delimiter, the path without one
  refine ⟨⟨⟨⟨?_, ?_⟩, Spelled.of_allAllowed (fun _ => isLetter_of_isCommon) hpath⟩, ?_⟩, ?_⟩
  · cases scheme with
    | none => exact Spelled.nil
    | some s => simp [hscheme s rfl, show isLetter ':' = true by decide]
  · cases authority with
    | none => exact Spelled.nil
    | some a => simp [spelled_of_isAuthority hauthority, show isLetter '/' = true by decide]
  · cases query with
    | none => exact Spelled.nil
    | some q =>
      have hq : Spelled q := by
        refine Spelled.of_allAllowed (fun c hc => ?_) hquery
        simp only [Bool.or_eq_true] at hc
        rcases hc with hc | hc
        · exact isLetter_of_isCommon hc
        · simp [isLetter, hc]
      simp [hq, show isLetter '?' = true by decide]
  · cases fragment with
    | none => exact Spelled.nil
    | some f =>
      simp [Spelled.of_allAllowed (fun _ => isLetter_of_isCommon) hfragment,
        show isLetter '#' = true by decide]

/-- Every character of an absolute identifier belongs to the alphabet. -/
theorem spelled_of_isAbsolute {cs : List Char} (h : isAbsolute cs = true) : Spelled cs := by
  simp only [isAbsolute, Bool.and_eq_true] at h
  rw [← toChars_ofChars cs]
  exact Parts.spelled_toChars h.2 fun s hs => spelled_scheme hs

/-- An absolute identifier does not contain a character outside of the alphabet. -/
theorem not_mem_of_isAbsolute {cs : List Char} (h : isAbsolute cs = true) {c : Char}
    (hc : isLetter c = false) : c ∉ cs := by
  intro hmem
  rw [spelled_of_isAbsolute h c hmem] at hc
  cases hc

end Songbook.Iri
