import Songbook.Error
import Songbook.Number.Unsigned
import Songbook.Text.Blank

/-!
# Choosing an artist

An answer names an artist of a numbered list. An exact name wins over a position in the
list, and a position over a name that differs in ASCII case only. A prompt shows the list,
takes exactly one line of the input and resolves it.
-/

namespace Songbook

namespace Selection

/-- Two names that differ at most in the case of ASCII letters. -/
def sameUpToCase (a b : String) : Bool :=
  a.toList.map Char.toLower == b.toList.map Char.toLower

/-- The index of the artist that an answer names, if it names one. -/
def resolve (artists : List String) (input : String) : Option Nat :=
  let answer := Text.trimmed input
  if answer = "" then none
  else match artists.findIdx? (· == answer) with
    | some i => some i
    | none =>
      match Unsigned.read? answer.toList with
      | some n =>
          if 1 ≤ n ∧ n ≤ artists.length then some (n - 1)
          else artists.findIdx? (sameUpToCase · answer)
      | none => artists.findIdx? (sameUpToCase · answer)

end Selection

/-- An input that is read line by line, and what was shown before each line was read. -/
structure Prompt where
  unread : List UInt8
  shown : String := ""

namespace Prompt

/-- One artist of a listing, with its number. -/
def listed (number : Nat) (artist : String) : String :=
  toString number ++ ". " ++ artist ++ "\n"

/-- The artists of a listing, numbered from a first number on. -/
def numbered : Nat → List String → String
  | _, [] => ""
  | n, artist :: rest => listed n artist ++ numbered (n + 1) rest

/-- What is shown before a line is read. -/
def listing (artists : List String) : String :=
  "Artists:\n" ++ numbered 1 artists ++
    "Enter the artist's name or number from the list above: "

/-- The bytes up to and including the first newline, and the bytes after it. -/
def splitLine : List UInt8 → List UInt8 × List UInt8
  | [] => ([], [])
  | b :: r =>
    if b = 10 then ([b], r)
    else
      let (line, rest) := splitLine r
      (b :: line, rest)

/-- The text that bytes encode in UTF-8. -/
def textOfBytes (bytes : List UInt8) : Option String :=
  String.fromUTF8? ⟨bytes.toArray⟩

/-- Show the listing, read one line and resolve it. The line is used up in any case. -/
def select (artists : List String) (p : Prompt) : Except Error (Option Nat) × Prompt :=
  let (line, rest) := splitLine p.unread
  let after := { unread := rest, shown := p.shown ++ listing artists }
  match textOfBytes line with
  | some text => (.ok (Selection.resolve artists text), after)
  | none => (.error (.file .notText), after)

end Prompt

end Songbook
