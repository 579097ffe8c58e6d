import Songbook.Error
import Songbook.Number.Unsigned
import Songbook.Text.Blank

/-!
# Lengths of songs

The graph holds whole seconds. A length is shown as a clock reading `M:SS` or in words, and a
threshold is read back from a clock reading. `readClock` accepts exactly the trimmed texts of
the form digits, colon, digits with fewer than sixty seconds whose total is below `2 ^ 64`.
-/

namespace Songbook.Duration

/-- A number below a hundred with two digits. -/
def twoDigits (n : Nat) : String :=
  if n < 10 then "0" ++ toString n else toString n

/-- Whole seconds as minutes and seconds, `M:SS`. -/
def clock (seconds : Nat) : String :=
  toString (seconds / 60) ++ ":" ++ twoDigits (seconds % 60)

/-- Milliseconds as minutes and seconds, `M:SS`; what is left below a second is dropped. -/
def clockOfMillis (ms : Nat) : String :=
  toString (ms / 60000) ++ ":" ++ twoDigits (ms % 60000 / 1000)

/-- Whole seconds in words. -/
def inWords (seconds : Nat) : String :=
  toString (seconds / 60) ++ " minutes, " ++ toString (seconds % 60) ++ " seconds"

/-- The parts of a text before and after its first colon. -/
def splitColon (cs : List Char) : Option (List Char × List Char) :=
  match cs.span (· ≠ ':') with
  | (before, _ :: after) => some (before, after)
  | (_, []) => none

/-- The whole seconds that a clock reading stands for, read from characters. -/
def secondsOfClock (cs : List Char) : Option Nat := do
  let (before, after) ← splitColon (Text.trim cs)
  let minutes ← Unsigned.ofDigits? before
  let seconds ← Unsigned.ofDigits? after
  if seconds < 60 ∧ minutes * 60 + seconds < Unsigned.bound then
    some (minutes * 60 + seconds)
  else none

/-- The whole seconds that a clock reading stands for. -/
def readClock (input : String) : Except Error Nat :=
  match secondsOfClock input.toList with
  | some seconds => .ok seconds
  | none => .error (.input (.notALength input))

end Songbook.Duration
