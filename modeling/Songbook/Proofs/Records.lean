import Songbook.Proofs.Tracks

/-!
# Records and the tracks they describe

A record is complete when its own address, that of its first artist and that of its album are
absolute identifiers and its length is not negative. Exactly the complete records become tracks,
and since the addresses of such a track were checked, inserting it never fails. A record that is
not complete is refused for the first of its faults.
-/

namespace Songbook

namespace Record

/-- A record that has all the parts of a track. Artists behind the first one do not matter. -/
structure Complete (r : Record) : Prop where
  address : ∃ a ∈ r.address, Iri.isAbsolute a.toList = true
  millis : ∃ ms ∈ r.millis, 0 ≤ ms
  artist : ∃ e ∈ r.artists.head?, ∃ a ∈ e.address, Iri.isAbsolute a.toList = true
  album : ∃ e ∈ r.album, ∃ a ∈ e.address, Iri.isAbsolute a.toList = true

/-- A record that says about itself, its first artist and its album what a track says. -/
structure Describes (r : Record) (t : Track) : Prop where
  address : r.address = some t.address
  name : r.name = t.name
  millis : ∃ ms ∈ r.millis, ms.toInt = t.millis.toNat
  artist : r.artists.head? = some ⟨some t.artist.address, t.artist.name⟩
  album : r.album = some ⟨some t.album.address, t.album.name⟩

theorem Describes.unique {r : Record} {t u : Track} (ht : r.Describes t) (hu : r.Describes u) :
    t = u := by
  have haddress := ht.address.symm.trans hu.address
  have hartist := ht.artist.symm.trans hu.artist
  have halbum := ht.album.symm.trans hu.album
  have hname := ht.name.symm.trans hu.name
  obtain ⟨ms, hms, hmillis⟩ := ht.millis
  obtain ⟨ms', hms', hmillis'⟩ := hu.millis
  have hsame : t.millis = u.millis := by
    obtain rfl : ms = ms' := Option.some.inj (hms.symm.trans hms')
    apply UInt64.toNat.inj
    omega
  obtain ⟨_, _, _, ⟨_, _⟩, ⟨_, _⟩⟩ := t
  obtain ⟨_, _, _, ⟨_, _⟩, ⟨_, _⟩⟩ := u
  simp_all

theorem checkAddress_eq_ok_iff {r : Record} {role : Role} {address : Option String} {a : String} :
    r.checkAddress role address = .ok a ↔
      address = some a ∧ Iri.isAbsolute a.toList = true := by
  unfold checkAddress
  cases address with
  | none => simp
  | some b =>
    dsimp only
    split
    · rename_i hb
      rw [Except.ok.injEq, Option.some.injEq]
      constructor
      · rintro rfl
        exact ⟨rfl, hb⟩
      · exact And.left
    · rename_i hb
      simp only [reduceCtorEq, Option.some.injEq, false_iff, not_and]
      rintro rfl
      exact hb

/-- A length that is not negative is the same number without a sign. -/
theorem toNat_toUInt64 {ms : Int64} (h : 0 ≤ ms) : (ms.toUInt64.toNat : Int) = ms.toInt := by
  have hnonneg : 0 ≤ ms.toInt := by
    have h := Int64.le_iff_toInt_le.mp h
    simpa using h
  have hcond := BitVec.toInt_eq_toNat_cond ms.toBitVec
  have hlt := ms.toBitVec.isLt
  have hint : ms.toBitVec.toInt = ms.toInt := rfl
  have hnat : ms.toUInt64.toNat = ms.toBitVec.toNat := rfl
  split at hcond <;> omega

theorem checkMillis_eq_ok_iff {r : Record} {millis : UInt64} :
    r.checkMillis = .ok millis ↔ ∃ ms ∈ r.millis, ms.toInt = millis.toNat := by
  unfold checkMillis
  cases hr : r.millis with
  | none => simp
  | some ms =>
    dsimp only
    simp only [Option.mem_def, Option.some.injEq, exists_eq_left']
    split
    · rename_i hneg
      have hneg : ms.toInt < 0 := by simpa using Int64.lt_iff_toInt_lt.mp hneg
      simp only [reduceCtorEq, false_iff]
      omega
    · rename_i hnonneg
      have hms := toNat_toUInt64 (Int64.not_lt.mp hnonneg)
      rw [Except.ok.injEq]
      constructor
      · rintro rfl
        exact hms.symm
      · intro h
        apply UInt64.toNat.inj
        omega

/-- An artist or an album is taken over when its address is an absolute identifier. -/
theorem checkEntity_eq_ok_iff {r : Record} {role : Role} {part : EntityRecord} {e : Entity} :
    (do let address ← r.checkAddress role part.address
        return ({ address, name := part.name } : Entity)) = .ok e ↔
      part = ⟨some e.address, e.name⟩ ∧ Iri.isAbsolute e.address.toList = true := by
  obtain ⟨address, name⟩ := part
  obtain ⟨eaddress, ename⟩ := e
  simp only [bind_eq_ok_iff, checkAddress_eq_ok_iff, pure, Except.pure, Except.ok.injEq,
    Entity.mk.injEq, EntityRecord.mk.injEq]
  constructor
  · rintro ⟨_, ⟨rfl, h⟩, rfl, rfl⟩
    exact ⟨⟨rfl, rfl⟩, h⟩
  · rintro ⟨⟨rfl, rfl⟩, h⟩
    exact ⟨_, ⟨rfl, h⟩, rfl, rfl⟩

theorem checkArtist_eq_ok_iff {r : Record} {e : Entity} :
    r.checkArtist = .ok e ↔
      r.artists.head? = some ⟨some e.address, e.name⟩ ∧ Iri.isAbsolute e.address.toList = true := by
  unfold checkArtist
  cases r.artists with
  | nil => simp
  | cons first others => simp only [checkEntity_eq_ok_iff, List.head?_cons, Option.some.injEq]

theorem checkAlbum_eq_ok_iff {r : Record} {e : Entity} :
    r.checkAlbum = .ok e ↔
      r.album = some ⟨some e.address, e.name⟩ ∧ Iri.isAbsolute e.address.toList = true := by
  unfold checkAlbum
  cases r.album with
  | none => simp
  | some album => simp only [checkEntity_eq_ok_iff, Option.some.injEq]

theorem toTrack_eq_ok_iff {r : Record} {t : Track} :
    r.toTrack = .ok t ↔ r.Describes t ∧ t.Valid := by
  simp only [toTrack, bind_eq_ok_iff, checkAddress_eq_ok_iff, checkMillis_eq_ok_iff,
    checkArtist_eq_ok_iff, checkAlbum_eq_ok_iff]
  constructor
  · rintro ⟨a, ⟨ha, habsolute⟩, millis, hmillis, artist, ⟨hartist, hartistabs⟩, album,
      ⟨halbum, halbumabs⟩, h⟩
    obtain rfl := Except.ok.inj h
    exact ⟨⟨ha, rfl, hmillis, hartist, halbum⟩, ⟨habsolute, hartistabs, halbumabs⟩⟩
  · rintro ⟨hdescribes, hvalid⟩
    refine ⟨_, ⟨hdescribes.address, hvalid.address⟩, _, hdescribes.millis, _,
      ⟨hdescribes.artist, hvalid.artist⟩, _, ⟨hdescribes.album, hvalid.album⟩, ?_⟩
    rw [hdescribes.name]
    rfl

theorem complete_iff {r : Record} : r.Complete ↔ ∃ t, r.Describes t ∧ t.Valid := by
  constructor
  · rintro ⟨⟨a, ha, habsolute⟩, ⟨ms, hms, hnonneg⟩, ⟨⟨_, artist⟩, hartist, b, rfl, hb⟩,
      ⟨⟨_, album⟩, halbum, c, rfl, hc⟩⟩
    refine ⟨⟨a, r.name, ms.toUInt64, ⟨b, artist⟩, ⟨c, album⟩⟩, ?_, ⟨habsolute, hb, hc⟩⟩
    exact ⟨ha, rfl, ⟨ms, hms, (toNat_toUInt64 hnonneg).symm⟩, hartist, halbum⟩
  · rintro ⟨t, hdescribes, hvalid⟩
    obtain ⟨ms, hms, hmillis⟩ := hdescribes.millis
    have hnonneg : 0 ≤ ms := by
      apply Int64.le_iff_toInt_le.mpr
      simp only [Int64.toInt_zero]
      omega
    exact ⟨⟨_, hdescribes.address, hvalid.address⟩, ⟨ms, hms, hnonneg⟩,
      ⟨_, hdescribes.artist, _, rfl, hvalid.artist⟩, ⟨_, hdescribes.album, _, rfl, hvalid.album⟩⟩

/-- Exactly the complete records become tracks. -/
theorem isSome_toTrack_iff {r : Record} : r.toTrack.toOption.isSome = true ↔ r.Complete := by
  simp only [complete_iff, ← toTrack_eq_ok_iff]
  cases r.toTrack with
  | error e => simp [Except.toOption]
  | ok t => simp [Except.toOption]

instance (r : Record) : Decidable r.Complete := decidable_of_iff _ isSome_toTrack_iff

/-- The track of a record can be inserted into every graph. -/
theorem insertTrack_of_toTrack {r : Record} {t : Track} (h : r.toTrack = .ok t) (g : Graph) :
    g.insertTrack t = .ok (g.insertAll t.described) :=
  Graph.insertTrack_eq_ok_iff.mpr ⟨(toTrack_eq_ok_iff.mp h).2, rfl⟩

/-! ### Faults -/

/-- What is wrong with the address of a part. -/
def addressFaults (role : Role) : Option String → List RecordFault
  | none => [.missingAddress role]
  | some a => if Iri.isAbsolute a.toList then [] else [.invalidAddress role a]

/-- What is wrong with a length. -/
def millisFaults : Option Int64 → List RecordFault
  | none => [.missingLength]
  | some ms => if ms < 0 then [.negativeLength] else []

/-- What is wrong with the artists, of whom only the first one matters. -/
def artistFaults : List EntityRecord → List RecordFault
  | [] => [.noArtists]
  | first :: _ => addressFaults .artist first.address

/-- What is wrong with an album. -/
def albumFaults : Option EntityRecord → List RecordFault
  | none => [.missingAlbum]
  | some album => addressFaults .album album.address

/-- All that is wrong with a record, in the order in which it is looked for. -/
def faults (r : Record) : List RecordFault :=
  addressFaults .track r.address ++ (millisFaults r.millis ++
    (artistFaults r.artists ++ albumFaults r.album))

/-- A check of a record that succeeds if there are no faults and fails for the first one else. -/
def Reports {α : Type} (r : Record) (check : Except Error α) : List RecordFault → Prop
  | [] => ∃ a, check = .ok a
  | first :: _ => check = .error (.record r.label first)

theorem Reports.bind {α β : Type} {r : Record} {check : Except Error α} {next : α → Except Error β}
    {faults later : List RecordFault} (h : r.Reports check faults)
    (hnext : ∀ a, r.Reports (next a) later) : r.Reports (check >>= next) (faults ++ later) := by
  cases faults with
  | nil =>
    obtain ⟨a, rfl⟩ := h
    exact hnext a
  | cons first others =>
    have hcheck : check = .error (.record r.label first) := h
    rw [hcheck]
    rfl

theorem Reports.bind_ok {α β : Type} {r : Record} {check : Except Error α} {value : α → β}
    {faults : List RecordFault} (h : r.Reports check faults) :
    r.Reports (do return value (← check)) faults := by
  rw [← List.append_nil faults]
  exact h.bind fun a => ⟨value a, rfl⟩

theorem Reports.exists_ok_iff {α : Type} {r : Record} {check : Except Error α}
    {faults : List RecordFault} (h : r.Reports check faults) :
    (∃ a, check = .ok a) ↔ faults = [] := by
  cases faults with
  | nil => exact ⟨fun _ => rfl, fun _ => h⟩
  | cons first others =>
    have hcheck : check = .error (.record r.label first) := h
    simp [hcheck]

theorem Reports.eq_error_iff {α : Type} {r : Record} {check : Except Error α}
    {faults : List RecordFault} (h : r.Reports check faults) {e : Error} :
    check = .error e ↔ ∃ fault ∈ faults.head?, e = .record r.label fault := by
  cases faults with
  | nil =>
    obtain ⟨a, rfl⟩ := h
    simp
  | cons first others =>
    have hcheck : check = .error (.record r.label first) := h
    simp [hcheck, eq_comm]

theorem reports_checkAddress (r : Record) (role : Role) (address : Option String) :
    r.Reports (r.checkAddress role address) (addressFaults role address) := by
  cases address with
  | none => rfl
  | some a =>
    unfold checkAddress addressFaults
    dsimp only
    split
    · exact ⟨a, rfl⟩
    · rfl

theorem reports_checkMillis (r : Record) : r.Reports r.checkMillis (millisFaults r.millis) := by
  unfold checkMillis
  cases r.millis with
  | none => rfl
  | some ms =>
    unfold millisFaults
    dsimp only
    split
    · rfl
    · exact ⟨ms.toUInt64, rfl⟩

theorem reports_checkArtist (r : Record) : r.Reports r.checkArtist (artistFaults r.artists) := by
  unfold checkArtist
  cases r.artists with
  | nil => rfl
  | cons first others => exact (r.reports_checkAddress .artist first.address).bind_ok

theorem reports_checkAlbum (r : Record) : r.Reports r.checkAlbum (albumFaults r.album) := by
  unfold checkAlbum
  cases r.album with
  | none => rfl
  | some album => exact (r.reports_checkAddress .album album.address).bind_ok

theorem reports_toTrack (r : Record) : r.Reports r.toTrack r.faults :=
  (r.reports_checkAddress .track r.address).bind fun _ => r.reports_checkMillis.bind fun _ =>
    r.reports_checkArtist.bind fun _ => r.reports_checkAlbum.bind_ok

theorem exists_toTrack_iff {r : Record} : (∃ t, r.toTrack = .ok t) ↔ r.faults = [] :=
  r.reports_toTrack.exists_ok_iff

/-- A record is refused for the first of its faults. -/
theorem toTrack_eq_error_iff {r : Record} {e : Error} :
    r.toTrack = .error e ↔ ∃ fault ∈ r.faults.head?, e = .record r.label fault :=
  r.reports_toTrack.eq_error_iff

end Record

end Songbook
