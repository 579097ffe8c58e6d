import Songbook.Proofs.Records
import Songbook.Service.Item

/-!
# Items of a playlist and their tracks

The addresses of a record that comes from an item are written from identifiers of letters and
digits. So each of them is an absolute identifier, and two of them are the same only if they name
the same thing in the same role. What can still keep an item from being a track is that something
is missing, or that the length is negative.
-/

namespace Songbook

/-! ### Addresses from identifiers -/

namespace Iri

theorem allAllowed_of_forall {allowed : Char → Bool} {cs : List Char}
    (h : ∀ c ∈ cs, c ≠ '%' ∧ allowed c = true) : allAllowed allowed cs = true := by
  fun_induction allAllowed allowed cs with
  | case1 => rfl
  | case2 a b r ih => exact absurd rfl (h '%' (by simp)).1
  | case3 c r _ ih =>
    obtain ⟨hc, hallowed⟩ := h c (by simp)
    simp [hc, hallowed, ih fun d hd => h d (by simp [hd])]

/-- What has none of the delimiters in it is a path alone. -/
theorem splitRest_eq_path {scheme : Option (List Char)} {path : List Char}
    (h : ∀ c ∈ path, isDelimiter c = false) :
    splitRest scheme path =
      { scheme, authority := none, path, query := none, fragment := none } := by
  have htail : ∀ c ∈ path, (!(c == '?' || c == '#')) = true := by
    intro c hc
    have hc := h c hc
    simp only [isDelimiter, Bool.or_eq_false_iff] at hc
    simp [hc.1.2, hc.2]
  have htake : path.takeWhile (fun c => !(c == '?' || c == '#')) = path :=
    List.takeWhile_eq_self_iff.mpr htail
  have hdrop : path.dropWhile (fun c => !(c == '?' || c == '#')) = [] :=
    List.dropWhile_eq_nil_iff.mpr htail
  unfold splitRest
  split
  rename_i authority after hsplit
  split at hsplit
  · exact absurd (h '/' (by simp)) (by decide)
  · cases hsplit
    dsimp only
    rw [htake, hdrop]
    rfl

end Iri

namespace Role

theorem all_isAlphanum_word (role : Role) : role.word.toList.all Char.isAlphanum = true := by
  cases role <;> decide

theorem eq_of_word_eq {role role' : Role} (h : role.word = role'.word) : role = role' := by
  cases role <;> cases role' <;> first | rfl | exact absurd h (by decide)

end Role

namespace Identifier

/-- The characters behind the name of the service. -/
def path (role : Role) (i : Identifier) : List Char :=
  role.word.toList ++ ':' :: i.text.toList

theorem toList_address (role : Role) (i : Identifier) :
    (i.address role.word).toList = "spotify".toList ++ ':' :: path role i := by
  simp [address, path]

theorem mem_path {role : Role} {i : Identifier} {c : Char} (h : c ∈ path role i) :
    c.isAlphanum = true ∨ c = ':' := by
  rcases List.mem_append.mp h with h | h
  · exact Or.inl (List.all_eq_true.mp role.all_isAlphanum_word c h)
  · rcases List.mem_cons.mp h with h | h
    · exact Or.inr h
    · exact Or.inl (List.all_eq_true.mp i.plain c h)

theorem isAbsolute_address (role : Role) (i : Identifier) :
    Iri.isAbsolute (i.address role.word).toList = true := by
  have hsplit : Iri.Parts.ofChars ("spotify".toList ++ ':' :: path role i) =
      Iri.splitRest (some "spotify".toList) (path role i) := rfl
  have hchar : ∀ c ∈ path role i,
      Iri.isDelimiter c = false ∧ c ≠ '%' ∧ Iri.isCommon c = true := by
    intro c hc
    rcases mem_path hc with h | rfl
    · have hne : ∀ d : Char, d.isAlphanum = false → c ≠ d := by
        rintro d hd rfl
        rw [hd] at h
        cases h
      have hdelimiter : Iri.isDelimiter c = false := by
        simp [Iri.isDelimiter, hne '/' rfl, hne '?' rfl, hne '#' rfl]
      exact ⟨hdelimiter, hne '%' rfl, by simp [Iri.isCommon, Iri.isPlain, h]⟩
    · decide
  have hpath : Iri.allAllowed Iri.isCommon (path role i) = true :=
    Iri.allAllowed_of_forall fun c hc => (hchar c hc).2
  rw [toList_address, Iri.isAbsolute, hsplit, Iri.splitRest_eq_path fun c hc => (hchar c hc).1]
  simp [Iri.Parts.wellFormed, hpath]

theorem colon_not_mem {cs : List Char} (h : cs.all Char.isAlphanum = true) : ':' ∉ cs :=
  fun hc => absurd (List.all_eq_true.mp h ':' hc) (by decide)

theorem address_inj {role role' : Role} {i j : Identifier} :
    i.address role.word = j.address role'.word ↔ role = role' ∧ i = j := by
  constructor
  · intro h
    have hpath : path role i = path role' j := by
      have h := congrArg String.toList h
      rw [toList_address, toList_address] at h
      exact (List.cons.inj (List.append_cancel_left h)).2
    -- the colon ends the word of the role on both sides
    obtain ⟨hword, -, htext⟩ := (List.append_cons_inj_of_notMem
      (colon_not_mem role.all_isAlphanum_word) (colon_not_mem i.plain)).mp hpath
    refine ⟨Role.eq_of_word_eq (String.toList_injective hword), ?_⟩
    cases i
    cases j
    rw [mk.injEq]
    exact String.toList_injective htext
  · rintro ⟨rfl, rfl⟩
    rfl

end Identifier

/-- The addresses that a record gives in a role, also those of artists behind the first one. -/
def Record.addresses (r : Record) : Role → List String
  | .track => r.address.toList
  | .artist => r.artists.filterMap EntityRecord.address
  | .album => (r.album.bind EntityRecord.address).toList

namespace Service

/-- A recording that says about itself, its first artist and its album what a track says. -/
structure Recording.Tells (s : Recording) (t : Track) : Prop where
  address : ∃ i ∈ s.identifier, t.address = "spotify:track:" ++ i.text
  name : t.name = s.name
  millis : (t.millis.toNat : Int) = s.millis.toInt
  artist : ∃ first ∈ s.artists.head?, ∃ i ∈ first.identifier,
    t.artist = ⟨"spotify:artist:" ++ i.text, first.name⟩
  album : ∃ i ∈ s.album.identifier, t.album = ⟨"spotify:album:" ++ i.text, s.album.name⟩

/-- What keeps a recording from being a track, in the order in which it is looked for. -/
def Recording.faults (s : Recording) : List RecordFault :=
  (if s.identifier.isNone then [.missingAddress .track] else []) ++
    ((if s.millis < 0 then [.negativeLength] else []) ++
      ((match s.artists with
        | [] => [.noArtists]
        | first :: _ => if first.identifier.isNone then [.missingAddress .artist] else []) ++
        if s.album.identifier.isNone then [.missingAddress .album] else []))

/-- What keeps an item from being a track. What is no song lacks everything. -/
def Item.faults : Item → List RecordFault
  | .recording s => s.faults
  | .other => [.missingAddress .track, .missingLength, .noArtists, .missingAlbum]

theorem addressFaults_identifier (role : Role) (identifier : Option Identifier) :
    Record.addressFaults role (identifier.map (Identifier.address role.word)) =
      if identifier.isNone then [.missingAddress role] else [] := by
  cases identifier with
  | none => rfl
  | some i => simp [Record.addressFaults, i.isAbsolute_address role]

theorem faults_record (item : Item) : item.record.faults = item.faults := by
  cases item with
  | other => rfl
  | recording s =>
    obtain ⟨identifier, name, millis, artists, album⟩ := s
    have hartists : Record.artistFaults (artists.map (Credit.record .artist)) =
        match artists with
        | [] => [.noArtists]
        | first :: _ => if first.identifier.isNone then [.missingAddress .artist] else [] := by
      cases artists with
      | nil => rfl
      | cons first others => exact addressFaults_identifier .artist first.identifier
    simp only [Item.record, Recording.record, Record.faults, Item.faults, Recording.faults,
      Record.millisFaults, Record.albumFaults, Credit.record, addressFaults_identifier]
    rw [hartists]

theorem exists_identifier_of_mem_addresses {item : Item} {role : Role} {a : String}
    (h : a ∈ item.record.addresses role) : ∃ i : Identifier, a = i.address role.word := by
  cases item with
  | other => cases role <;> cases h
  | recording s =>
    cases role with
    | track =>
      obtain ⟨i, -, ha⟩ := Option.map_eq_some_iff.mp (Option.mem_toList.mp h)
      exact ⟨i, ha.symm⟩
    | artist =>
      obtain ⟨e, he, ha⟩ := List.mem_filterMap.mp h
      obtain ⟨c, -, rfl⟩ := List.mem_map.mp he
      obtain ⟨i, -, ha⟩ := Option.map_eq_some_iff.mp ha
      exact ⟨i, ha.symm⟩
    | album =>
      obtain ⟨i, -, ha⟩ := Option.map_eq_some_iff.mp (Option.mem_toList.mp h)
      exact ⟨i, ha.symm⟩

theorem record_eq_iff {role : Role} {c : Credit} {e : Entity} :
    c.record role = ⟨some e.address, e.name⟩ ↔
      ∃ i ∈ c.identifier, e = ⟨i.address role.word, c.name⟩ := by
  obtain ⟨address, name⟩ := e
  rw [Credit.record, EntityRecord.mk.injEq, Option.map_eq_some_iff]
  constructor
  · rintro ⟨⟨i, hi, rfl⟩, rfl⟩
    exact ⟨i, hi, rfl⟩
  · rintro ⟨i, hi, h⟩
    cases h
    exact ⟨⟨i, hi, rfl⟩, rfl⟩

theorem describes_record_iff {s : Recording} {t : Track} : s.record.Describes t ↔ s.Tells t := by
  have hartist : s.record.artists.head? = some ⟨some t.artist.address, t.artist.name⟩ ↔
      ∃ first ∈ s.artists.head?, ∃ i ∈ first.identifier,
        t.artist = ⟨i.address Role.artist.word, first.name⟩ := by
    simp only [Recording.record, List.head?_map, Option.map_eq_some_iff, record_eq_iff]
    rfl
  have halbum : s.record.album = some ⟨some t.album.address, t.album.name⟩ ↔
      ∃ i ∈ s.album.identifier, t.album = ⟨i.address Role.album.word, s.album.name⟩ := by
    simp only [Recording.record, Option.some.injEq, record_eq_iff]
  constructor
  · rintro ⟨haddress, hname, ⟨ms, hms, hmillis⟩, ha, hb⟩
    obtain rfl : s.millis = ms := Option.some.inj hms
    obtain ⟨i, hi, haddress⟩ := Option.map_eq_some_iff.mp haddress
    exact ⟨⟨i, hi, haddress.symm⟩, hname.symm, hmillis.symm, hartist.mp ha, halbum.mp hb⟩
  · rintro ⟨⟨i, hi, haddress⟩, hname, hmillis, ha, hb⟩
    exact ⟨Option.map_eq_some_iff.mpr ⟨i, hi, haddress.symm⟩, hname.symm,
      ⟨s.millis, rfl, hmillis.symm⟩, hartist.mpr ha, halbum.mpr hb⟩

theorem Recording.Tells.valid {s : Recording} {t : Track} (h : s.Tells t) : t.Valid := by
  obtain ⟨⟨i, -, haddress⟩, -, -, ⟨first, -, j, -, hartist⟩, ⟨k, -, halbum⟩⟩ := h
  refine ⟨?_, ?_, ?_⟩
  · rw [haddress]
    exact i.isAbsolute_address .track
  · rw [hartist]
    exact j.isAbsolute_address .artist
  · rw [halbum]
    exact k.isAbsolute_address .album

theorem toTrack_record_eq_ok_iff {item : Item} {t : Track} :
    item.record.toTrack = .ok t ↔ ∃ s, item = .recording s ∧ s.Tells t := by
  rw [Record.toTrack_eq_ok_iff]
  cases item with
  | other =>
    constructor
    · rintro ⟨⟨haddress, -, -, -, -⟩, -⟩
      cases haddress
    · rintro ⟨s, hs, -⟩
      cases hs
  | recording s =>
    constructor
    · rintro ⟨hdescribes, -⟩
      exact ⟨s, rfl, describes_record_iff.mp hdescribes⟩
    · rintro ⟨s', hs, htells⟩
      cases hs
      exact ⟨describes_record_iff.mpr htells, htells.valid⟩

/-- A recording that has all that a track needs. -/
structure Recording.Complete (s : Recording) : Prop where
  identifier : s.identifier.isSome = true
  millis : 0 ≤ s.millis
  artist : ∃ first ∈ s.artists.head?, first.identifier.isSome = true
  album : s.album.identifier.isSome = true

theorem missing_eq_nil_iff {α : Type} {part : Option α} {fault : RecordFault} :
    (if part.isNone then [fault] else []) = [] ↔ part.isSome = true := by
  cases part <;> simp

theorem Recording.faults_eq_nil_iff {s : Recording} : s.faults = [] ↔ s.Complete := by
  have hmillis : (if s.millis < 0 then [RecordFault.negativeLength] else []) = [] ↔
      0 ≤ s.millis := by
    rw [← Int64.not_lt]
    by_cases h : s.millis < 0 <;> simp [h]
  have hartist : (match s.artists with
      | [] => [.noArtists]
      | first :: _ => if first.identifier.isNone then [.missingAddress .artist] else []) =
        ([] : List RecordFault) ↔ ∃ first ∈ s.artists.head?, first.identifier.isSome = true := by
    cases s.artists with
    | nil => simp
    | cons first others => simp only [missing_eq_nil_iff, List.head?_cons, Option.mem_def,
        Option.some.injEq, exists_eq_left']
  simp only [Recording.faults, List.append_eq_nil_iff, missing_eq_nil_iff, hmillis, hartist]
  exact ⟨fun ⟨haddress, hmillis, hartist, halbum⟩ => ⟨haddress, hmillis, hartist, halbum⟩,
    fun ⟨haddress, hmillis, hartist, halbum⟩ => ⟨haddress, hmillis, hartist, halbum⟩⟩

theorem Item.faults_eq_nil_iff {item : Item} :
    item.faults = [] ↔ ∃ s, item = .recording s ∧ s.Complete := by
  cases item with
  | other => simp [Item.faults]
  | recording s => simp [Item.faults, Recording.faults_eq_nil_iff]

theorem Item.not_mem_faults_invalid {item : Item} {role : Role} {a : String} :
    .invalidAddress role a ∉ item.faults := by
  cases item with
  | other => simp [Item.faults]
  | recording s =>
    simp only [Item.faults, Recording.faults, List.mem_append]
    cases s.artists <;> grind

/-- An item becomes a track if it is a recording that lacks nothing, and the track tells what the
item tells, with addresses from its identifiers. All addresses of its record are absolute
identifiers, so that none is refused, and addresses in different roles are never the same, not even
those of two items. An item that becomes no track is refused for the first of its faults. -/
theorem tracks_of_items (item : Item) :
    ((∃ t, item.record.toTrack = .ok t) ↔ ∃ s, item = .recording s ∧ s.Complete) ∧
    (∀ t, item.record.toTrack = .ok t ↔ ∃ s, item = .recording s ∧ s.Tells t) ∧
    (∀ role, ∀ a ∈ item.record.addresses role, Iri.isAbsolute a.toList = true) ∧
    (∀ label role a, item.record.toTrack ≠ .error (.record label (.invalidAddress role a))) ∧
    (∀ (another : Item) (role role' : Role), role ≠ role' → ∀ a ∈ item.record.addresses role,
      a ∉ another.record.addresses role') ∧
    ∀ e, item.record.toTrack = .error e ↔
      ∃ fault ∈ item.faults.head?, e = .record item.record.label fault := by
  have herror : ∀ e, item.record.toTrack = .error e ↔
      ∃ fault ∈ item.faults.head?, e = .record item.record.label fault := by
    intro e
    rw [Record.toTrack_eq_error_iff, faults_record]
  refine ⟨?_, fun t => toTrack_record_eq_ok_iff, ?_, ?_, ?_, herror⟩
  · rw [Record.exists_toTrack_iff, faults_record, Item.faults_eq_nil_iff]
  · intro role a ha
    obtain ⟨i, rfl⟩ := exists_identifier_of_mem_addresses ha
    exact i.isAbsolute_address role
  · intro label role a h
    obtain ⟨fault, hfault, heq⟩ := (herror _).mp h
    obtain ⟨-, rfl⟩ := Error.record.inj heq
    exact Item.not_mem_faults_invalid (List.mem_of_mem_head? hfault)
  · intro another role role' hne a ha ha'
    obtain ⟨i, rfl⟩ := exists_identifier_of_mem_addresses ha
    obtain ⟨j, heq⟩ := exists_identifier_of_mem_addresses ha'
    exact hne (Identifier.address_inj.mp heq).1

/-- A song, its artist and its album may have the same identifier. -/
example :
    let i : Identifier := ⟨"a1", by decide⟩
    let s : Recording :=
      ⟨some i, "Kiss", 221000, [⟨some i, "Prince"⟩, ⟨none, "Wendy"⟩], ⟨some i, "Parade"⟩⟩
    (Item.recording s).record.toTrack = .ok ⟨"spotify:track:a1", "Kiss", 221000,
      ⟨"spotify:artist:a1", "Prince"⟩, ⟨"spotify:album:a1", "Parade"⟩⟩ := by
  decide

end Service

end Songbook
