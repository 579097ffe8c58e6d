import Songbook.Json
import Songbook.Text.Hex

/-!
# Printing JSON documents

A document is printed over several lines, two blanks for each level of nesting. An empty
array or object stays on its line. Only the quote, the backslash and the control characters
below the blank are escaped, so every other character stands for itself.
-/

namespace Songbook.Json

/-- How one character is written inside a JSON text. -/
def escapeChar (c : Char) : List Char :=
  if c = '"' then ['\\', '"']
  else if c = '\\' then ['\\', '\\']
  else if c = '\x08' then ['\\', 'b']
  else if c = '\x0c' then ['\\', 'f']
  else if c = '\n' then ['\\', 'n']
  else if c = '\r' then ['\\', 'r']
  else if c = '\t' then ['\\', 't']
  else if c.toNat < 0x20 then
    ['\\', 'u', '0', '0', Text.lowerHexDigit (c.toNat / 16), Text.lowerHexDigit (c.toNat % 16)]
  else [c]

/-- A text between quotes. -/
def writeText (s : String) : List Char :=
  '"' :: s.toList.flatMap escapeChar ++ ['"']

/-- A line break and the blanks of a level of nesting. -/
def newline (level : Nat) : List Char :=
  '\n' :: List.replicate (2 * level) ' '

mutual

/-- A document at a level of nesting. -/
def write (level : Nat) : Json → List Char
  | null => "null".toList
  | boolean true => "true".toList
  | boolean false => "false".toList
  | integer n => (toString n).toList
  | decimal spelling => spelling.toList
  | text s => writeText s
  | array [] => ['[', ']']
  | array (item :: rest) =>
      '[' :: newline (level + 1) ++ write (level + 1) item ++ writeItems (level + 1) rest ++
        newline level ++ [']']
  | object [] => ['\x7b', '\x7d']
  | object ((name, value) :: rest) =>
      '\x7b' :: newline (level + 1) ++ writeText name ++ [':', ' '] ++
        write (level + 1) value ++ writeFields (level + 1) rest ++ newline level ++ ['\x7d']

/-- The items after the first one, each behind a comma. -/
def writeItems (level : Nat) : List Json → List Char
  | [] => []
  | item :: rest => ',' :: newline level ++ write level item ++ writeItems level rest

/-- The fields after the first one, each behind a comma. -/
def writeFields (level : Nat) : List (String × Json) → List Char
  | [] => []
  | (name, value) :: rest =>
      ',' :: newline level ++ writeText name ++ [':', ' '] ++ write level value ++
        writeFields level rest

end

/-- A document over several lines. -/
def pretty (j : Json) : String := String.ofList (write 0 j)

end Songbook.Json
