import Songbook.Settings

/-!
# Settings are complete or refused

Four values must be known. The settings hold them as they were found if none of them is missing or
blank, and otherwise one failure tells which are. What the user gives instead of a variable is
taken as it is, also when it is blank: `make_complete_or_refused`, `blankPlaylist_is_accepted`.
-/

namespace Songbook.Settings

open Text

variable {o : Overrides} {lookup lookup' : String → Option String} {name value : String}
  {s : Settings}

/-! ### Values -/

/-- There is a value, and it does not consist of blanks only. -/
def IsGiven (value : Option String) : Prop :=
  ∃ text ∈ value, ∃ c ∈ text.toList, isBlank c = false

theorem isBlankText_eq_false_iff : isBlankText value = false ↔ IsGiven (some value) := by
  simp [isBlankText, IsGiven]

theorem isGiven_iff_any {value : Option String} :
    IsGiven value ↔ value.any (fun text => !isBlankText text) = true := by
  cases value with
  | none => simp [IsGiven]
  | some text => rw [Option.any_some, Bool.not_eq_true', isBlankText_eq_false_iff]

instance : DecidablePred IsGiven := fun _ => decidable_of_iff' _ isGiven_iff_any

/-- The variables of the four values, in the order in which they are reported. -/
def variableNames : List String :=
  [clientIdVariable, clientSecretVariable, redirectUriVariable, playlistIdVariable]

/-- The value that counts for a variable: what the user gave for the playlist, and otherwise what
is looked up. -/
def effective? (o : Overrides) (lookup : String → Option String) (name : String) :
    Option String :=
  if name = playlistIdVariable then o.playlistId.or (lookup name) else lookup name

theorem effective?_eq_lookup (h : name = playlistIdVariable → o.playlistId = none) :
    effective? o lookup name = lookup name := by
  unfold effective?
  split
  · rename_i heq
    rw [h heq, Option.none_or]
  · rfl

theorem effective?_playlistId :
    effective? o lookup playlistIdVariable = o.playlistId.or (lookup playlistIdVariable) :=
  if_pos rfl

/-- The variable of the playlist is required unless the user gave a playlist, and the others are
required always. -/
theorem mem_required_iff :
    name ∈ required o ↔
      name ∈ variableNames ∧ (name = playlistIdVariable → o.playlistId = none) := by
  have hnames : variableNames =
      [clientIdVariable, clientSecretVariable, redirectUriVariable] ++ [playlistIdVariable] := rfl
  have hother : playlistIdVariable ∉
      [clientIdVariable, clientSecretVariable, redirectUriVariable] := by decide
  rw [required, hnames, List.mem_append, List.mem_append, List.mem_singleton]
  cases o.playlistId with
  | none => simp
  | some id =>
    constructor
    · rintro (h | h)
      · exact ⟨.inl h, fun heq => absurd (heq ▸ h) hother⟩
      · cases h
    · rintro ⟨h | h, hnone⟩
      · exact .inl h
      · cases hnone h

theorem present?_eq_some_iff :
    present? lookup name = some value ↔ lookup name = some value ∧ IsGiven (some value) := by
  rw [present?, Option.filter_eq_some_iff, ← isBlankText_eq_false_iff, Bool.not_eq_true']

theorem present?_eq_none_iff : present? lookup name = none ↔ ¬ IsGiven (lookup name) := by
  rw [present?, Option.filter_eq_none_iff]
  constructor
  · rintro h ⟨text, htext, hgiven⟩
    have hblank := h text htext
    rw [isBlankText_eq_false_iff.mpr ⟨text, rfl, hgiven⟩] at hblank
    exact hblank rfl
  · intro h text htext hgiven
    have hlooked : lookup name = some text := htext
    rw [Bool.not_eq_true', isBlankText_eq_false_iff, ← hlooked] at hgiven
    exact h hgiven

/-- A variable that is present counts with its value, unless the user gave one instead. -/
theorem effective?_of_present? (h : name = playlistIdVariable → o.playlistId = none)
    (hvalue : present? lookup name = some value) : effective? o lookup name = some value :=
  (effective?_eq_lookup h).trans (present?_eq_some_iff.mp hvalue).1

/-! ### Settings -/

theorem make_eq_ok_iff :
    make o lookup = .ok s ↔
      present? lookup clientIdVariable = some s.clientId ∧
      present? lookup clientSecretVariable = some s.clientSecret ∧
      present? lookup redirectUriVariable = some s.redirectUri ∧
      o.playlistId.or (present? lookup playlistIdVariable) = some s.playlistId ∧
      s.output = o.output.getD defaultOutput := by
  unfold make
  split
  · rename_i clientId clientSecret redirectUri playlistId hid hsecret huri hplaylist
    rw [hid, hsecret, huri, hplaylist]
    cases s
    simp only [Except.ok.injEq, mk.injEq, Option.some.injEq, @eq_comm _ (o.output.getD _)]
  · rename_i hother
    refine iff_of_false (fun h => by cases h) ?_
    rintro ⟨hid, hsecret, huri, hplaylist, -⟩
    exact hother _ _ _ _ hid hsecret huri hplaylist

theorem output_of_make (h : make o lookup = .ok s) : s.output = o.output.getD defaultOutput :=
  (make_eq_ok_iff.mp h).2.2.2.2

theorem eq_missing_of_make_error {e : Error} (h : make o lookup = .error e) :
    e = .settings (.missing (missing o lookup)) := by
  unfold make at h
  split at h
  · cases h
  · cases h
    rfl

/-! ### Missing variables -/

theorem missing_eq_filter_required :
    missing o lookup = (required o).filter fun name => ¬ IsGiven (lookup name) := by
  refine List.filter_congr fun name _ => ?_
  rw [Bool.eq_iff_iff, Option.isNone_iff_eq_none, present?_eq_none_iff, decide_eq_true_eq]

theorem missing_eq_nil_iff :
    missing o lookup = [] ↔ ∀ name ∈ required o, ∃ value, present? lookup name = some value := by
  rw [missing, List.filter_eq_nil_iff]
  refine forall₂_congr fun name _ => ?_
  rw [Option.isNone_iff_eq_none]
  exact Option.ne_none_iff_exists'

theorem exists_make_eq_ok_iff : (∃ s, make o lookup = .ok s) ↔ missing o lookup = [] := by
  constructor
  · rintro ⟨s, hs⟩
    obtain ⟨hid, hsecret, huri, hplaylist, -⟩ := make_eq_ok_iff.mp hs
    refine missing_eq_nil_iff.mpr fun name hname => ?_
    simp only [required, List.mem_append, List.mem_cons, List.not_mem_nil, or_false] at hname
    rcases hname with (rfl | rfl | rfl) | hname
    · exact ⟨_, hid⟩
    · exact ⟨_, hsecret⟩
    · exact ⟨_, huri⟩
    · -- the fourth variable is required only where the user gave nothing
      cases hgiven : o.playlistId with
      | some id => simp [hgiven] at hname
      | none =>
        rw [hgiven, Option.none_or] at hplaylist
        obtain rfl : name = playlistIdVariable := by simpa [hgiven] using hname
        exact ⟨_, hplaylist⟩
  · intro h
    have hvalue := missing_eq_nil_iff.mp h
    obtain ⟨clientId, hid⟩ := hvalue clientIdVariable (by simp [required])
    obtain ⟨clientSecret, hsecret⟩ := hvalue clientSecretVariable (by simp [required])
    obtain ⟨redirectUri, huri⟩ := hvalue redirectUriVariable (by simp [required])
    obtain ⟨playlistId, hplaylist⟩ :
        ∃ value, o.playlistId.or (present? lookup playlistIdVariable) = some value := by
      cases hgiven : o.playlistId with
      | some id => exact ⟨id, rfl⟩
      | none => exact hvalue playlistIdVariable (by simp [required, hgiven])
    exact ⟨⟨clientId, clientSecret, redirectUri, playlistId, o.output.getD defaultOutput⟩,
      make_eq_ok_iff.mpr ⟨hid, hsecret, huri, hplaylist, rfl⟩⟩

theorem make_eq_error_iff {e : Error} :
    make o lookup = .error e ↔
      missing o lookup ≠ [] ∧ e = .settings (.missing (missing o lookup)) := by
  constructor
  · intro h
    refine ⟨fun hnil => ?_, eq_missing_of_make_error h⟩
    obtain ⟨s, hs⟩ := exists_make_eq_ok_iff.mpr hnil
    cases h.symm.trans hs
  · rintro ⟨hne, rfl⟩
    cases hmake : make o lookup with
    | ok s => exact absurd (exists_make_eq_ok_iff.mp ⟨s, hmake⟩) hne
    | error e => rw [eq_missing_of_make_error hmake]

/-- Where the user did not give a blank, the missing variables are those whose values are not
given. -/
theorem missing_eq_filter (h : ∀ id, o.playlistId = some id → IsGiven (some id)) :
    missing o lookup =
      variableNames.filter fun name => ¬ IsGiven (effective? o lookup name) := by
  have hrequired : missing o lookup =
      (required o).filter fun name => ¬ IsGiven (effective? o lookup name) := by
    rw [missing_eq_filter_required]
    refine List.filter_congr fun name hname => ?_
    rw [effective?_eq_lookup (mem_required_iff.mp hname).2]
  rw [hrequired]
  cases hgiven : o.playlistId with
  | none =>
    have hall : required o = variableNames := by simp [required, variableNames, hgiven]
    rw [hall]
  | some id =>
    have hnames : variableNames = required o ++ [playlistIdVariable] := by
      simp [required, variableNames, hgiven]
    have hplaylist : effective? o lookup playlistIdVariable = some id := by
      rw [effective?_playlistId, hgiven, Option.some_or]
    have hlast : [playlistIdVariable].filter
        (fun name => ¬ IsGiven (effective? o lookup name)) = [] := by
      simpa [hplaylist] using h id hgiven
    rw [hnames, List.filter_append, hlast, List.append_nil]

/-! ### Completeness -/

theorem make_congr (h : ∀ name ∈ required o, lookup' name = lookup name) :
    make o lookup' = make o lookup := by
  have hpresent : ∀ name ∈ required o, present? lookup' name = present? lookup name := by
    intro name hname
    rw [present?, present?, h name hname]
  have hmissing : missing o lookup' = missing o lookup :=
    List.filter_congr fun name hname => by rw [hpresent name hname]
  have hplaylist : o.playlistId.or (present? lookup' playlistIdVariable) =
      o.playlistId.or (present? lookup playlistIdVariable) := by
    cases hgiven : o.playlistId with
    | some id => rfl
    | none => rw [hpresent playlistIdVariable (by simp [required, hgiven])]
  unfold make
  rw [hpresent clientIdVariable (by simp [required]),
    hpresent clientSecretVariable (by simp [required]),
    hpresent redirectUriVariable (by simp [required]), hplaylist, hmissing]

/-- It does not matter what the user gave instead of the variable. -/
theorem make_playlistId {id : String} (h : o.playlistId = some id) (id' : String) :
    make { o with playlistId := some id' } lookup =
      (make o lookup).map fun s => { s with playlistId := id' } := by
  obtain ⟨playlistId, output⟩ := o
  cases h
  have hmissing : missing ⟨some id', output⟩ lookup = missing ⟨some id, output⟩ lookup := rfl
  simp only [make, Option.some_or, hmissing]
  cases present? lookup clientIdVariable <;> cases present? lookup clientSecretVariable <;>
    cases present? lookup redirectUriVariable <;> rfl

/-- Where the user gave no blank, the settings are made if and only if all four values are given,
and then they hold these values as they are; otherwise one failure names the variables whose values
are not given, in their order. No other variable is looked at, and none for the playlist where the
user gave one. What the user gave is not looked at either, so that a blank is taken like
everything else. -/
theorem make_complete_or_refused (o : Overrides) (lookup : String → Option String) :
    ((∀ id, o.playlistId = some id → IsGiven (some id)) →
      ((∃ s, make o lookup = .ok s) ↔
        ∀ name ∈ variableNames, IsGiven (effective? o lookup name)) ∧
      (∀ s, make o lookup = .ok s →
        effective? o lookup clientIdVariable = some s.clientId ∧
        effective? o lookup clientSecretVariable = some s.clientSecret ∧
        effective? o lookup redirectUriVariable = some s.redirectUri ∧
        effective? o lookup playlistIdVariable = some s.playlistId ∧
        s.output = o.output.getD defaultOutput) ∧
      ∀ e, make o lookup = .error e ↔
        ∃ names, names = variableNames.filter (fun name => ¬ IsGiven (effective? o lookup name)) ∧
          names ≠ [] ∧ e = .settings (.missing names) ∧
          e.message = "Configuration error: missing environment variables: " ++
            ", ".intercalate names ++ ". Set them in the environment or a .env file.") ∧
    (∀ lookup' : String → Option String,
      (∀ name ∈ variableNames, (name = playlistIdVariable → o.playlistId = none) →
        lookup' name = lookup name) → make o lookup' = make o lookup) ∧
    ∀ id id', o.playlistId = some id → make { o with playlistId := some id' } lookup =
      (make o lookup).map fun s => { s with playlistId := id' } := by
  refine ⟨fun h => ⟨?_, fun s hs => ?_, fun e => ?_⟩, fun lookup' h => ?_,
    fun id id' h => make_playlistId h id'⟩
  · rw [exists_make_eq_ok_iff, missing_eq_filter h, List.filter_eq_nil_iff]
    simp
  · obtain ⟨hid, hsecret, huri, hplaylist, houtput⟩ := make_eq_ok_iff.mp hs
    refine ⟨?_, ?_, ?_, ?_, houtput⟩
    · exact effective?_of_present? (fun heq => absurd heq (by decide)) hid
    · exact effective?_of_present? (fun heq => absurd heq (by decide)) hsecret
    · exact effective?_of_present? (fun heq => absurd heq (by decide)) huri
    · cases hgiven : o.playlistId with
      | some id =>
        rw [hgiven, Option.some_or] at hplaylist
        rw [effective?_playlistId, hgiven, Option.some_or, hplaylist]
      | none =>
        rw [hgiven, Option.none_or] at hplaylist
        exact effective?_of_present? (fun _ => hgiven) hplaylist
  · rw [make_eq_error_iff, missing_eq_filter h]
    constructor
    · rintro ⟨hne, rfl⟩
      exact ⟨_, rfl, hne, rfl, (String.append_assoc ..).symm⟩
    · rintro ⟨names, rfl, hne, rfl, -⟩
      exact ⟨hne, rfl⟩
  · refine make_congr fun name hname => ?_
    obtain ⟨hmem, hplaylist⟩ := mem_required_iff.mp hname
    exact h name hmem hplaylist

/-- Variables of which one is blank, and two are not there. -/
def blankSecret (name : String) : Option String :=
  [("SPOTIFY_CLIENT_ID", "i"), ("SPOTIFY_CLIENT_SECRET", "\u00a0")].lookup name

/-- Two variables are named, whatever the user gave for the playlist and whatever its variable
is. -/
theorem make_complete_or_refused_blankSecret :
    let refused : Error := .settings (.missing ["SPOTIFY_CLIENT_SECRET", "SPOTIFY_REDIRECT_URI"])
    make { playlistId := some " mix" } blankSecret = .error refused ∧
      make { playlistId := some " " } blankSecret = .error refused ∧
      make { playlistId := some " mix" }
        (fun name => if name = playlistIdVariable then some "other" else blankSecret name) =
          .error refused := by
  intro refused
  obtain ⟨hgiven, hlooked, htaken⟩ :=
    make_complete_or_refused { playlistId := some " mix" } blankSecret
  obtain ⟨-, -, herror⟩ := hgiven fun id hid => by
    cases hid
    decide
  have hrefused : make { playlistId := some " mix" } blankSecret = .error refused :=
    (herror refused).mpr ⟨_, rfl, by decide, by decide, by decide⟩
  refine ⟨hrefused, ?_, ?_⟩
  · rw [htaken " mix" " " rfl, hrefused]
    rfl
  · rw [← hrefused]
    refine hlooked _ fun name _ hplaylist => if_neg fun heq => ?_
    cases hplaylist heq

/-- Variables of all values but that of the playlist. -/
def threeVariables (name : String) : Option String :=
  [("SPOTIFY_CLIENT_ID", "i"), ("SPOTIFY_CLIENT_SECRET", "s"),
    ("SPOTIFY_REDIRECT_URI", "r")].lookup name

/-- A blank that the user gives for the playlist makes settings, although the value that counts is
blank. -/
theorem blankPlaylist_is_accepted :
    let given : Overrides := { playlistId := some "  " }
    make given threeVariables =
        .ok { clientId := "i", clientSecret := "s", redirectUri := "r", playlistId := "  ",
              output := defaultOutput } ∧
      ¬ ∀ name ∈ variableNames, IsGiven (effective? given threeVariables name) := by
  intro given
  constructor
  · rfl
  · intro h
    have hplaylist : IsGiven (effective? given threeVariables playlistIdVariable) :=
      h playlistIdVariable (by decide)
    revert hplaylist
    decide

end Songbook.Settings
