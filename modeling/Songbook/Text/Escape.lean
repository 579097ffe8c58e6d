import Songbook.Text.Hex

/-!
# Escapes

Documents and queries name characters behind a backslash, by a letter or by a code of four or
eight hexadecimal digits. Here escapes are undone: in references between angle brackets, where
only codes are known, and in texts between quotes. What counts as a code is a parameter, since
documents and references also take a plus sign in front of fewer digits.
-/

namespace Songbook.Text

/-- The number that a code of hexadecimal digits spells. -/
def strictCode? (digits : List Char) : Option Nat := ofHex? digits

/-- The number that a code spells whose first digit may be a plus sign. -/
def looseCode? : List Char → Option Nat
  | '+' :: digits => if digits = [] then none else ofHex? digits
  | digits => ofHex? digits

/-- The character that a letter stands for behind a backslash. -/
def escaped? : Char → Option Char
  | 't' => some '\t'
  | 'b' => some '\x08'
  | 'n' => some '\n'
  | 'r' => some '\r'
  | 'f' => some '\x0c'
  | '"' => some '"'
  | '\'' => some '\''
  | '\\' => some '\\'
  | _ => none

/-- Undo the codes of a text. There is no other use of the backslash. -/
def undoCodes : List Char → Option (List Char)
  | [] => some []
  | '\\' :: 'u' :: a :: b :: c :: d :: r => do
      let char ← (looseCode? [a, b, c, d]).bind charOfCode?
      return char :: (← undoCodes r)
  | '\\' :: 'U' :: a :: b :: c :: d :: e :: f :: g :: h :: r => do
      let char ← (looseCode? [a, b, c, d, e, f, g, h]).bind charOfCode?
      return char :: (← undoCodes r)
  | c :: r => if c = '\\' then none else do return c :: (← undoCodes r)

/-- A reference behind its opening bracket, and what follows its closing bracket. -/
def readReference (cs : List Char) : Option (List Char × List Char) :=
  match cs.span (· != '>') with
  | (inside, _ :: rest) => (undoCodes inside).map fun text => (text, rest)
  | (_, []) => none

/-- The end of a line. -/
def isLineEnd (c : Char) : Bool := c == '\n' || c == '\r'

/-- A text on one line behind its opening quote, and what follows its closing quote. -/
def readShort (code? : List Char → Option Nat) (quote : Char) :
    List Char → Option (List Char × List Char)
  | [] => none
  | '\\' :: 'u' :: a :: b :: c :: d :: r => do
      let char ← (code? [a, b, c, d]).bind charOfCode?
      let (cs, rest) ← readShort code? quote r
      return (char :: cs, rest)
  | '\\' :: 'U' :: a :: b :: c :: d :: e :: f :: g :: h :: r => do
      let char ← (code? [a, b, c, d, e, f, g, h]).bind charOfCode?
      let (cs, rest) ← readShort code? quote r
      return (char :: cs, rest)
  | '\\' :: c :: r => do
      let char ← escaped? c
      let (cs, rest) ← readShort code? quote r
      return (char :: cs, rest)
  | c :: r =>
      if c = quote then some ([], r)
      else if c = '\\' ∨ isLineEnd c then none
      else do
        let (cs, rest) ← readShort code? quote r
        return (c :: cs, rest)

/-- A text over several lines behind its three opening quotes, and what follows the first
three quotes in a row. -/
def readLong (code? : List Char → Option Nat) (quote : Char) :
    List Char → Option (List Char × List Char)
  | [] => none
  | '\\' :: 'u' :: a :: b :: c :: d :: r => do
      let char ← (code? [a, b, c, d]).bind charOfCode?
      let (cs, rest) ← readLong code? quote r
      return (char :: cs, rest)
  | '\\' :: 'U' :: a :: b :: c :: d :: e :: f :: g :: h :: r => do
      let char ← (code? [a, b, c, d, e, f, g, h]).bind charOfCode?
      let (cs, rest) ← readLong code? quote r
      return (char :: cs, rest)
  | '\\' :: c :: r => do
      let char ← escaped? c
      let (cs, rest) ← readLong code? quote r
      return (char :: cs, rest)
  | c :: r =>
      if c = quote ∧ r.take 2 = [quote, quote] then some ([], r.drop 2)
      else if c = '\\' then none
      else do
        let (cs, rest) ← readLong code? quote r
        return (c :: cs, rest)

/-- White space between the parts of a text. -/
def isSpace (c : Char) : Bool := c == ' ' || c == '\t' || c == '\n' || c == '\r'

/-- What follows white space and comments at the front. The flag tells whether the front lies
inside a comment. -/
def skipSpace (inComment : Bool) : List Char → List Char
  | [] => []
  | c :: r =>
    if inComment then skipSpace (!isLineEnd c) r
    else if isSpace c then skipSpace false r
    else if c = '#' then skipSpace true r
    else c :: r

/-- The characters that a backslash makes part of a local name. -/
def isLocalEscape (c : Char) : Bool := "_~.-!$&'()*+,;=/?#@%".toList.contains c

end Songbook.Text
