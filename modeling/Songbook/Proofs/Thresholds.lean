import Songbook.Proofs.Catalog.Songs
import Songbook.Proofs.Durations
import Songbook.Request

/-!
# Lengths as thresholds

The length of a song is shown as a clock reading, and a threshold is given as one. Reading undoes
showing for every number of seconds below `2 ^ 64`, so the text that is shown for a song asks for
the songs that are longer by a second or more: `readings_roundTrip`.
-/

namespace Songbook

open Catalog Duration Rdf Sparql

/-! ### Songs above a threshold -/

namespace Catalog

variable {g : Graph} {answers : List Song} {row : Row}

theorem exists_seconds_of_mem_songRows (h : row ∈ songRows g) :
    ∃ n : Int64, 0 ≤ n.toInt ∧ row.get? duration = some (.literal (.integer n)) ∧
      (titledSongOf row).seconds = n.toInt.toNat := by
  obtain ⟨r, -, t, -, n, hn, rfl⟩ := exists_of_mem_songRows h
  exact ⟨n, hn, rfl, congrArg (Option.getD · 0) (lengthOf?_integer hn)⟩

theorem seconds_lt_of_mem_titledSongs {song : Song} (h : song ∈ g.titledSongs) :
    song.seconds < 2 ^ 63 := by
  rw [← map_titledSongOf_filter_songRows] at h
  obtain ⟨row, hrow, rfl⟩ := List.mem_map.mp h
  obtain ⟨n, hn, -, hseconds⟩ := exists_seconds_of_mem_songRows (List.mem_of_mem_filter hrow)
  have hlt := n.toInt_lt
  omega

theorem filter_isLongerThan (g : Graph) (threshold : Nat) :
    (songRows g).filter (fun row => [isLongerThan threshold].all (·.keeps row)) =
      (songRows g).filter fun row => threshold < (titledSongOf row).seconds := by
  refine List.filter_congr fun row hrow => ?_
  obtain ⟨n, hn, hduration, hseconds⟩ := exists_seconds_of_mem_songRows hrow
  rw [List.all_cons, List.all_nil, Bool.and_true, keeps_isLongerThan_integer hn hduration,
    hseconds]

/-- Where songs are listed by length, all titles are literals, and all songs are listed. -/
theorem perm_of_songsByLength (h : songsByLength g = .ok answers) :
    (∀ row ∈ songRows g, TellsTitledSong row) ∧ answers.Perm g.titledSongs := by
  obtain ⟨htells, hperm⟩ := perm_of_songs textsSpell.songsByLength (List.cons_ne_nil _ _) h
  simp only [List.all_nil, List.filter_true] at htells hperm
  have htitled : (songRows g).filter isTitled = songRows g :=
    List.filter_eq_self.mpr fun row hrow => (htells row hrow).isTitled
  rw [← map_titledSongOf_filter_songRows, htitled]
  exact ⟨htells, hperm⟩

/-- Whenever the songs above a threshold are listed, they are all the songs of the graph that are
longer. -/
theorem perm_of_songsLongerThan {threshold : Nat} (h : songsLongerThan g threshold = .ok answers) :
    answers.Perm (g.titledSongs.filter (threshold < ·.seconds)) := by
  obtain ⟨htells, hperm⟩ := perm_of_songs (readQuery?_songsLongerThanText threshold)
    (List.cons_ne_nil _ _) h
  rw [filter_isLongerThan] at htells hperm
  -- a row without a title that is a literal is none of those above the threshold
  have htitled : ((songRows g).filter isTitled).filter
      (fun row => threshold < (titledSongOf row).seconds) =
        (songRows g).filter fun row => threshold < (titledSongOf row).seconds := by
    rw [List.filter_comm]
    exact List.filter_eq_self.mpr fun row hrow => (htells row hrow).isTitled
  rw [← map_titledSongOf_filter_songRows, List.filter_map]
  exact hperm.trans (List.Perm.of_eq (congrArg (List.map titledSongOf) htitled.symm))

/-- Where songs are listed by length, those above a threshold are listed too. -/
theorem exists_songsLongerThan_eq_ok (h : songsByLength g = .ok answers) (threshold : Nat) :
    ∃ longer, songsLongerThan g threshold = .ok longer := by
  obtain ⟨_, -, hlonger⟩ := exists_songs_eq_ok_of_tells
    (readQuery?_songsLongerThanText threshold) (List.cons_ne_nil _ _)
    fun row hrow => (perm_of_songsByLength h).1 row (List.mem_of_mem_filter hrow)
  exact ⟨_, hlonger⟩

end Catalog

/-! ### Readings as thresholds -/

theorem Request.make_longerThan_clock {seconds : Nat} (h : seconds < Unsigned.bound)
    (format : Format) : Request.make .longerThan (some (clock seconds)) format =
      .ok { question := .longerThan, threshold := some seconds, format } := by
  rw [Request.make, readClock_clock h]
  rfl

namespace Duration

/-- What is shown for milliseconds or for seconds below `2 ^ 64` is read back as the whole seconds
in them, so no two numbers of seconds are shown alike. What is read as a number of seconds is a
reading of it, and what is shown for the number is its one canonical reading. What is shown for
seconds, and so for the length of any song, asks as a threshold for the songs with more seconds:
no others are listed, and the list is there if the graph's songs can be listed at all. -/
theorem readings_roundTrip :
    (∀ ms ≤ 2 ^ 64 - 1, readClock (clockOfMillis ms) = .ok (ms / 1000) ∧
      clockOfMillis ms = clock (ms / 1000)) ∧
    (∀ s ≤ 2 ^ 64 - 1, readClock (clock s) = .ok s) ∧
    (∀ s ≤ 2 ^ 64 - 1, ∀ t ≤ 2 ^ 64 - 1, clock s = clock t → s = t) ∧
    (∀ text n, readClock text = .ok n →
      IsReading text.toList n ∧ readClock (clock n) = .ok n ∧
        ∀ canonical : String, IsCanonical canonical.toList n ↔ canonical = clock n) ∧
    ∀ g : Graph, (∀ song ∈ g.titledSongs, song.seconds ≤ 2 ^ 64 - 1) ∧
      ∀ s ≤ 2 ^ 64 - 1,
        (∀ format, Request.make .longerThan (some (clock s)) format =
          .ok { question := .longerThan, threshold := some s, format }) ∧
        (∀ longer, songsLongerThan g s = .ok longer →
          longer.Perm (g.titledSongs.filter (s < ·.seconds))) ∧
        ∀ songs, songsByLength g = .ok songs →
          songs.Perm g.titledSongs ∧ ∃ longer, songsLongerThan g s = .ok longer := by
  have hbound : ∀ {n : Nat}, n ≤ 2 ^ 64 - 1 → n < Unsigned.bound := by
    intro n hn
    unfold Unsigned.bound
    omega
  have hread : ∀ s ≤ 2 ^ 64 - 1, readClock (clock s) = .ok s :=
    fun s hs => readClock_clock (hbound hs)
  refine ⟨fun ms hms => ?_, hread, fun s hs t ht heq => ?_, fun text n htext => ?_,
    fun g => ⟨fun song hsong => ?_, fun s hs => ⟨fun format => ?_, fun longer hlonger => ?_,
      fun songs hsongs => ?_⟩⟩⟩
  · rw [clockOfMillis_eq]
    exact ⟨hread _ (by omega), rfl⟩
  · have hback := hread s hs
    rw [heq, hread t ht] at hback
    exact (Except.ok.inj hback).symm
  · obtain ⟨hreading, hn⟩ := readClock_eq_ok_iff.mp htext
    refine ⟨hreading, readClock_clock hn, fun canonical => ?_⟩
    rw [isCanonical_iff, String.toList_inj]
  · have hlt := seconds_lt_of_mem_titledSongs hsong
    omega
  · exact Request.make_longerThan_clock (hbound hs) format
  · exact perm_of_songsLongerThan hlonger
  · exact ⟨(perm_of_songsByLength hsongs).2, exists_songsLongerThan_eq_ok hsongs s⟩

/-- Two recordings that differ by a second, one of them with a title in some language. -/
def unevenSongs : Graph :=
  let about (address : String) (property : Iri) (value : Term) : Triple :=
    ⟨.iri ⟨address⟩, property, value⟩
  Graph.ofTriples
    [about "song:a" Vocabulary.rdfType (.node (.iri Vocabulary.musicRecording)),
      about "song:a" Vocabulary.name (.literal (.tagged "A" "en")),
      about "song:a" Vocabulary.duration (.literal (.integer 65)),
      about "song:b" Vocabulary.rdfType (.node (.iri Vocabulary.musicRecording)),
      about "song:b" Vocabulary.name (.literal (.plain "B")),
      about "song:b" Vocabulary.duration (.literal (.integer 64))]

/-- What is shown for the shorter song finds the other one. -/
theorem readings_roundTrip_unevenSongs :
    readClock (clockOfMillis (2 ^ 64 - 1)) = .ok 18446744073709551 ∧
      readClock (clock (2 ^ 64 - 1)) = .ok (2 ^ 64 - 1) ∧
      readClock "\t007:4 " = .ok 424 ∧ IsCanonical "7:04".toList 424 ∧
      Request.make .longerThan (some "1:04") .json =
        .ok { question := .longerThan, threshold := some 64, format := .json } ∧
      songsLongerThan unevenSongs 64 = .ok [⟨"A", 65⟩] := by
  obtain ⟨hmillis, hseconds, -, hcanonical, hsongs⟩ := readings_roundTrip
  have hread : readClock "\t007:4 " = .ok 424 := by decide
  obtain ⟨hmake, honly, hlists⟩ := (hsongs unevenSongs).2 64 (by decide)
  have hnames : unevenSongs.RecordingsHaveLiteralNames := by
    intro n o _ ho
    have hobjects : ∀ t ∈ unevenSongs.triples, t.predicate = Vocabulary.name →
        t.object = .literal (.tagged "A" "en") ∨ t.object = .literal (.plain "B") := by
      decide +kernel
    rcases hobjects _ ho rfl with h | h <;> exact ⟨_, h⟩
  obtain ⟨_, -, hlisted⟩ := exists_songs_eq_ok_of_tells textsSpell.songsByLength
    (List.cons_ne_nil _ _) fun _ hrow =>
      tellsTitledSong_of_mem_songRows hnames (List.mem_of_mem_filter hrow)
  obtain ⟨longer, hlonger⟩ := (hlists _ hlisted).2
  have hfound : unevenSongs.titledSongs.filter (64 < ·.seconds) = [⟨"A", 65⟩] := by
    decide +kernel
  have hperm := honly longer hlonger
  rw [hfound, List.perm_singleton] at hperm
  exact ⟨(hmillis _ (Nat.le_refl _)).1, hseconds _ (Nat.le_refl _), hread,
    ((hcanonical _ _ hread).2.2 "7:04").mpr (by decide), hmake .json, hperm ▸ hlonger⟩

end Duration

end Songbook
