/-!
# Comments in documents

A document is a text in UTF-8, but its comments may hold any bytes. Comments are taken out of
the bytes of a document before these become characters. A sign of a comment does not begin one
inside of brackets and quotes and behind a backslash.
-/

namespace Songbook.Turtle

/-- Where a byte of a document stands. -/
inductive Region
  | plain
  | reference
  | short (quote : UInt8)
  | long (quote : UInt8)
  | comment
  deriving DecidableEq

/-- The bytes of a document with a blank in the place of each comment. The end of a line does not
belong to a comment. -/
def withoutComments : Region → List UInt8 → List UInt8
  | _, [] => []
  | .plain, 92 :: b :: r => 92 :: b :: withoutComments .plain r
  | .plain, 34 :: 34 :: 34 :: r => 34 :: 34 :: 34 :: withoutComments (.long 34) r
  | .plain, 39 :: 39 :: 39 :: r => 39 :: 39 :: 39 :: withoutComments (.long 39) r
  | .plain, b :: r =>
    if b = 35 then 32 :: withoutComments .comment r
    else if b = 60 then b :: withoutComments .reference r
    else if b = 34 ∨ b = 39 then b :: withoutComments (.short b) r
    else b :: withoutComments .plain r
  | .reference, b :: r => b :: withoutComments (if b = 62 then .plain else .reference) r
  | .short quote, 92 :: b :: r => 92 :: b :: withoutComments (.short quote) r
  | .short quote, b :: r => b :: withoutComments (if b = quote then .plain else .short quote) r
  | .long quote, 92 :: b :: r => 92 :: b :: withoutComments (.long quote) r
  | .long quote, a :: b :: c :: r =>
    if a = quote ∧ b = quote ∧ c = quote then a :: b :: c :: withoutComments .plain r
    else a :: withoutComments (.long quote) (b :: c :: r)
  | .long quote, b :: r => b :: withoutComments (.long quote) r
  | .comment, b :: r =>
    if b = 10 ∨ b = 13 then b :: withoutComments .plain r else withoutComments .comment r

/-- A reference stays a reference up to its closing bracket. -/
theorem withoutComments_reference {bs : List UInt8} (h : 62 ∉ bs) (rest : List UInt8) :
    withoutComments .reference (bs ++ rest) = bs ++ withoutComments .reference rest := by
  induction bs with
  | nil => rfl
  | cons b bs ih =>
    have hb : b ≠ 62 := fun hb => h (by simp [hb])
    rw [List.cons_append, withoutComments, if_neg hb, ih fun hbs => h (by simp [hbs])]
    rfl

/-- A byte that is neither a quote nor a backslash stays in a short text. -/
theorem withoutComments_short {quote b : UInt8} (hquote : b ≠ quote) (hslash : b ≠ 92)
    (rest : List UInt8) :
    withoutComments (.short quote) (b :: rest) = b :: withoutComments (.short quote) rest := by
  rw [withoutComments, if_neg hquote]
  intro _ _ hb
  exact absurd hb hslash

/-- A quote that no two other quotes follow opens a text on one line. -/
theorem withoutComments_quote {bs : List UInt8} (h : ∀ r, bs ≠ 34 :: 34 :: r) :
    withoutComments .plain (34 :: bs) = 34 :: withoutComments (.short 34) bs := by
  rw [withoutComments]
  · simp
  · simp
  · rintro r - rfl
    exact h r rfl
  · simp

end Songbook.Turtle
