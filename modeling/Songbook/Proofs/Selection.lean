import Mathlib.Data.List.Nodup
import Songbook.Proofs.Text.Bytes
import Songbook.Selection
import Songbook.Text.Lines

/-!
# Answers to a numbered listing

An answer is resolved by an exact name, by a position in the listing or by a name up to case, in
this order. So the number of an artist selects that artist unless it is somebody's name, and an
artist who shares a name with an earlier one, or whose number is somebody's name, is still
selected by the number with zeros in front: the names are too few to take all of these spellings.
-/

namespace Songbook

open Text

/-! ### Trimmed answers -/

namespace Text

theorem trimmed_append {before after : String} (hbefore : isBlankText before)
    (hafter : isBlankText after) (s : String) :
    trimmed (before ++ s ++ after) = trimmed s := by
  unfold isBlankText at hbefore hafter
  simp only [trimmed, String.toList_append, trim_append hbefore hafter]

theorem trimmed_eq_self {s : String} (hfirst : ∀ c ∈ s.toList.head?, isBlank c = false)
    (hlast : ∀ c ∈ s.toList.getLast?, isBlank c = false) : trimmed s = s := by
  rw [trimmed, trim_eq_self hfirst hlast, String.ofList_toList]

theorem trimmed_of_isBlankText {s : String} (h : isBlankText s) : trimmed s = "" := by
  have hempty : trimmed (s ++ "" ++ "") = trimmed "" := trimmed_append h rfl ""
  rwa [String.append_empty, String.append_empty] at hempty

end Text

namespace Selection

variable {artists : List String} {input name : String} {i n zeros : Nat}

/-! ### The three ways to answer -/

theorem resolve_of_isBlankText (h : isBlankText input) : resolve artists input = none := by
  rw [resolve, trimmed_of_isBlankText h]
  rfl

theorem resolve_of_name (hinput : trimmed input = name) (hname : name ≠ "")
    (hfirst : artists.findIdx? (· == name) = some i) : resolve artists input = some i := by
  rw [resolve, hinput]
  simp only [hname, if_false, hfirst]

theorem resolve_of_position (hinput : trimmed input = name) (hname : name ≠ "")
    (hnobody : name ∉ artists) (hread : Unsigned.read? name.toList = some (i + 1))
    (hi : i < artists.length) : resolve artists input = some i := by
  have hnone : artists.findIdx? (· == name) = none := by
    apply List.findIdx?_eq_none_iff.mpr
    intro artist hartist
    have hne : artist ≠ name := fun heq => hnobody (heq ▸ hartist)
    simpa using hne
  have hposition : 1 ≤ i + 1 ∧ i + 1 ≤ artists.length := by omega
  rw [resolve, hinput]
  simp only [hname, if_false, hnone, hread, if_pos hposition, Nat.add_sub_cancel]

theorem lt_of_findIdx? {test : String → Bool} (h : artists.findIdx? test = some i) :
    i < artists.length := by
  obtain ⟨hi, -⟩ := List.findIdx?_eq_some_iff_getElem.mp h
  exact hi

theorem lt_of_resolve (h : resolve artists input = some i) : i < artists.length := by
  unfold resolve at h
  dsimp only at h
  split at h
  · cases h
  · split at h
    · rename_i hexact
      cases h
      exact lt_of_findIdx? hexact
    · split at h
      · split at h
        · rename_i hposition
          cases h
          omega
        · exact lt_of_findIdx? h
      · exact lt_of_findIdx? h

/-! ### Numerals -/

/-- A number with some zeros in front. -/
def numeral (zeros n : Nat) : String :=
  String.ofList (List.replicate zeros '0' ++ Nat.toDigits 10 n)

theorem numeral_zero (n : Nat) : numeral 0 n = toString n := by
  apply String.toList_injective
  simp [numeral, toString]

theorem numeral_injective (n : Nat) : Function.Injective fun zeros => numeral zeros n := by
  intro zeros zeros' h
  have hlength := congrArg (fun s => s.toList.length) h
  simp only [numeral, String.toList_ofList, List.length_append, List.length_replicate] at hlength
  omega

theorem isDigit_of_mem_numeral {c : Char} (h : c ∈ (numeral zeros n).toList) :
    c.isDigit = true := by
  rw [numeral, String.toList_ofList] at h
  exact (Unsigned.isNumeral_padded zeros n).digits c h

theorem numeral_ne_empty (zeros n : Nat) : numeral zeros n ≠ "" := by
  intro h
  have hnil := congrArg String.toList h
  rw [numeral, String.toList_ofList] at hnil
  exact (Unsigned.isNumeral_padded zeros n).nonempty hnil

theorem trimmed_numeral (zeros n : Nat) : trimmed (numeral zeros n) = numeral zeros n := by
  apply trimmed_eq_self
  · exact fun c hc => isBlank_of_isDigit (isDigit_of_mem_numeral (List.mem_of_mem_head? hc))
  · exact fun c hc => isBlank_of_isDigit (isDigit_of_mem_numeral (List.mem_of_getLast? hc))

/-- Not all spellings of a number are names. -/
theorem exists_numeral_not_mem (artists : List String) (n : Nat) :
    ∃ zeros, numeral zeros n ∉ artists := by
  by_contra hall
  have hmem : ∀ zeros, numeral zeros n ∈ artists := by
    intro zeros
    by_contra hnot
    exact hall ⟨zeros, hnot⟩
  let spellings := (List.range (artists.length + 1)).map fun zeros => numeral zeros n
  have hnodup : spellings.Nodup := List.nodup_range.map (numeral_injective n)
  have hsub : spellings ⊆ artists := by
    intro s hs
    obtain ⟨zeros, -, rfl⟩ := List.mem_map.mp hs
    exact hmem zeros
  -- the spellings are more than the artists
  have hle := hnodup.length_le_of_subset hsub
  simp only [spellings, List.length_map, List.length_range] at hle
  omega

theorem resolve_numeral (hbound : artists.length < Unsigned.bound) (hi : i < artists.length)
    (hinput : trimmed input = numeral zeros (i + 1)) (hnobody : numeral zeros (i + 1) ∉ artists) :
    resolve artists input = some i := by
  refine resolve_of_position hinput (numeral_ne_empty _ _) hnobody ?_ hi
  rw [numeral, String.toList_ofList]
  exact Unsigned.read?_padded (by omega) zeros

end Selection

/-! ### Lines of the input -/

namespace Prompt

variable {artists : List String}

/-- Bytes that end no line belong to the line that is read. -/
theorem splitLine_body {body : List UInt8} (h : 10 ∉ body) (rest : List UInt8) :
    splitLine (body ++ rest) = (body ++ (splitLine rest).1, (splitLine rest).2) := by
  induction body with
  | nil => rfl
  | cons b body ih =>
    obtain ⟨hb, hbody⟩ : 10 ≠ b ∧ 10 ∉ body := by simpa using h
    rw [List.cons_append, splitLine, if_neg (Ne.symm hb), ih hbody]
    rfl

theorem splitLine_append {line : List UInt8} (h : 10 ∉ line) (rest : List UInt8) :
    splitLine (line ++ 10 :: rest) = (line ++ [10], rest) :=
  splitLine_body h (10 :: rest)

theorem splitLine_eq_self {line : List UInt8} (h : 10 ∉ line) : splitLine line = (line, []) := by
  simpa [splitLine] using splitLine_body h []

theorem not_mem_bytes {cs : List Char} (h : '\n' ∉ cs) : 10 ∉ bytes cs := by
  intro hmem
  obtain ⟨c, hc, hb⟩ := List.mem_flatMap.mp hmem
  have hcode : c.toNat = 10 := eq_of_mem_utf8EncodeChar (by decide) hb
  have hc' : c = '\n' := Char.toNat_inj.mp hcode
  exact h (hc' ▸ hc)

theorem select_of_splitLine {p : Prompt} {cs : List Char} {rest : List UInt8}
    (h : splitLine p.unread = (bytes cs, rest)) :
    select artists p = (.ok (Selection.resolve artists (String.ofList cs)),
      { unread := rest, shown := p.shown ++ listing artists }) := by
  simp only [select, h, textOfBytes, fromUTF8?_bytes]

/-- A line selects what its text is resolved to, with the line break or at the end of the input. -/
theorem select_line {line : String} (h : '\n' ∉ line.toList) (shown : String) :
    (∀ rest, select artists { unread := line.toUTF8.toList ++ 10 :: rest, shown } =
      (.ok (Selection.resolve artists line),
        { unread := rest, shown := shown ++ listing artists })) ∧
    select artists { unread := line.toUTF8.toList, shown } =
      (.ok (Selection.resolve artists line),
        { unread := [], shown := shown ++ listing artists }) := by
  have hbytes : line.toUTF8.toList = bytes line.toList := by
    rw [← toList_toUTF8_ofList, String.ofList_toList]
  have hnone := not_mem_bytes h
  rw [hbytes]
  constructor
  · intro rest
    have hbreak : bytes line.toList ++ [10] = bytes (line.toList ++ ['\n']) :=
      (bytes_append line.toList ['\n']).symm
    have hsplit := splitLine_append hnone rest
    rw [hbreak] at hsplit
    have htext : Selection.resolve artists (String.ofList (line.toList ++ ['\n'])) =
        Selection.resolve artists line := by
      have htrimmed : trimmed ("" ++ line ++ "\n") = trimmed line :=
        trimmed_append rfl rfl line
      rw [String.empty_append] at htrimmed
      have hline : String.ofList (line.toList ++ ['\n']) = line ++ "\n" := by
        apply String.toList_injective
        simp
      rw [hline, Selection.resolve, Selection.resolve, htrimmed]
    rw [select_of_splitLine (p := { unread := _, shown }) hsplit, htext]
  · rw [select_of_splitLine (p := { unread := bytes line.toList, shown })
      (splitLine_eq_self hnone), String.ofList_toList]

theorem lt_of_select {p : Prompt} {i : Nat} (h : (select artists p).1 = .ok (some i)) :
    i < artists.length := by
  unfold select at h
  dsimp only at h
  split at h
  · exact Selection.lt_of_resolve (Except.ok.inj h)
  · cases h

theorem numbered_eq (n : Nat) (artists : List String) :
    numbered n artists =
      Text.lines (artists.mapIdx fun i artist => toString (i + n) ++ ". " ++ artist) := by
  induction artists generalizing n with
  | nil => rfl
  | cons artist artists ih =>
    rw [numbered, ih, List.mapIdx_cons, Text.lines, listed]
    simp only [Nat.zero_add, Nat.add_right_comm, Nat.add_assoc]

end Prompt

namespace Selection

/-- What a listing offers can be chosen. Each artist is listed with a number, and this number
selects the artist, with any blanks around it, unless somebody has it as a name. A name selects the
first artist of this name. Every artist is selected by some line, namely by a numeral that is
nobody's name. Nothing selects what is not listed. -/
theorem listed_artists_are_selected {artists : List String}
    (hbound : artists.length < Unsigned.bound) :
    Prompt.listing artists = Text.lines ("Artists:" ::
      artists.mapIdx fun i artist => toString (i + 1) ++ ". " ++ artist) ++
        "Enter the artist's name or number from the list above: " ∧
    (∀ line shown, '\n' ∉ line.toList →
      (∀ rest, Prompt.select artists { unread := line.toUTF8.toList ++ 10 :: rest, shown } =
        (.ok (resolve artists line),
          { unread := rest, shown := shown ++ Prompt.listing artists })) ∧
      Prompt.select artists { unread := line.toUTF8.toList, shown } =
        (.ok (resolve artists line),
          { unread := [], shown := shown ++ Prompt.listing artists })) ∧
    (∀ i < artists.length, toString (i + 1) ∉ artists →
      ∀ before after, isBlankText before → isBlankText after →
        resolve artists (before ++ toString (i + 1) ++ after) = some i) ∧
    (∀ i name, artists[i]? = some name → (∀ j < i, artists[j]? ≠ some name) → name ≠ "" →
      (∀ c ∈ name.toList.head?, isBlank c = false) →
      (∀ c ∈ name.toList.getLast?, isBlank c = false) → resolve artists name = some i) ∧
    (∀ i < artists.length, ∃ zeros,
      let line := String.ofList (List.replicate zeros '0') ++ toString (i + 1)
      line ∉ artists ∧ '\n' ∉ line.toList ∧ resolve artists line = some i) ∧
    (∀ input i, resolve artists input = some i → i < artists.length) ∧
    (∀ p i, (Prompt.select artists p).1 = .ok (some i) → i < artists.length) ∧
    ∀ input, isBlankText input → resolve artists input = none := by
  refine ⟨?_, fun line shown h => Prompt.select_line h shown, ?_, ?_, ?_,
    fun input i => lt_of_resolve, fun p i => Prompt.lt_of_select,
    fun input => resolve_of_isBlankText⟩
  · rw [Prompt.listing, Prompt.numbered_eq, Text.lines]
    rfl
  · intro i hi hnobody before after hbefore hafter
    rw [← numeral_zero] at hnobody ⊢
    refine resolve_numeral hbound hi ?_ hnobody
    rw [trimmed_append hbefore hafter, trimmed_numeral]
  · intro i name hname hfirst hne hhead hlast
    refine resolve_of_name (trimmed_eq_self hhead hlast) hne ?_
    obtain ⟨hi, hget⟩ := List.getElem?_eq_some_iff.mp hname
    refine List.findIdx?_eq_some_iff_getElem.mpr ⟨hi, by simpa using hget, fun j hj heq => ?_⟩
    have hj' : j < artists.length := by omega
    exact hfirst j hj (List.getElem?_eq_some_iff.mpr ⟨hj', by simpa using heq⟩)
  · intro i hi
    obtain ⟨zeros, hnobody⟩ := exists_numeral_not_mem artists (i + 1)
    have hline : String.ofList (List.replicate zeros '0') ++ toString (i + 1) =
        numeral zeros (i + 1) := by
      rw [← numeral_zero]
      apply String.toList_injective
      simp [numeral]
    refine ⟨zeros, ?_⟩
    dsimp only
    rw [hline]
    refine ⟨hnobody, fun hbreak => ?_, resolve_numeral hbound hi (trimmed_numeral _ _) hnobody⟩
    exact absurd (isDigit_of_mem_numeral hbreak) (by decide)

/-- Names that are the numbers of others, and names that differ in case only. -/
theorem listed_artists_are_selected_amongNumerals :
    let artists := ["Prince", "2", "1", "abba", "ABBA"]
    resolve artists "\t3 \n" = some 2 ∧ resolve artists "2" = some 1 ∧
      resolve artists "ABBA" = some 4 ∧
      ∃ zeros, resolve artists (String.ofList (List.replicate zeros '0') ++ "1") = some 0 := by
  intro artists
  obtain ⟨-, -, hnumber, hname, hzeros, -⟩ :=
    @listed_artists_are_selected artists (by decide)
  obtain ⟨zeros, -, -, hzero⟩ := hzeros 0 (by decide)
  refine ⟨hnumber 2 (by decide) (by decide) "\t" " \n" rfl rfl, ?_, ?_, zeros, hzero⟩
  · refine hname 1 "2" rfl (by decide) (by decide) ?_ ?_
    all_goals
      rintro c ⟨⟩
      rfl
  · refine hname 4 "ABBA" rfl (by decide) (by decide) ?_ ?_
    all_goals
      rintro c ⟨⟩
      rfl

end Selection

end Songbook
