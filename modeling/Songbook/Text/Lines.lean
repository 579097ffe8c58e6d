/-!
# Lines

Texts that are built line by line.
-/

namespace Songbook.Text

/-- Every text followed by a line break. -/
def lines : List String → String
  | [] => ""
  | line :: rest => line ++ "\n" ++ lines rest

theorem lines_append (as bs : List String) : lines (as ++ bs) = lines as ++ lines bs := by
  induction as with
  | nil => rw [List.nil_append, lines, String.empty_append]
  | cons a as ih => simp only [List.cons_append, lines, ih, String.append_assoc]

end Songbook.Text
