import Songbook.Json
import Songbook.Text.Hex

/-!
# Reading JSON documents

`Json.read?` accepts the JSON grammar and nothing else: one value, with white space around
it. The reading functions take a bound on the depth of the recursion; `read?` computes one
from the length of the text that no document exceeds.
-/

namespace Songbook.Json

/-- The white space of JSON. -/
def isSpace (c : Char) : Bool := c == ' ' || c == '\t' || c == '\n' || c == '\r'

/-- What follows the white space at the front. -/
def skipSpace (cs : List Char) : List Char := cs.dropWhile isSpace

/-- The code unit that four hexadecimal digits spell. -/
def readUnit (a b c d : Char) : Option Nat := Text.ofHex? [a, b, c, d]

/-- Whether a code unit opens a pair. -/
def isHighUnit (n : Nat) : Bool := 0xD800 ≤ n && n < 0xDC00

/-- Whether a code unit closes a pair. -/
def isLowUnit (n : Nat) : Bool := 0xDC00 ≤ n && n < 0xE000

/-- The character that a pair of code units stands for. -/
def charOfPair (high low : Nat) : Char :=
  Char.ofNat (0x10000 + (high - 0xD800) * 0x400 + (low - 0xDC00))

/-- The rest of a text behind its opening quote, and what follows its closing quote. -/
def readText : List Char → Option (List Char × List Char)
  | [] => none
  | '"' :: r => some ([], r)
  | '\\' :: 'u' :: a :: b :: c :: d :: '\\' :: 'u' :: e :: f :: g :: h :: r => do
      let n ← readUnit a b c d
      if isHighUnit n then
        let low ← readUnit e f g h
        if isLowUnit low then
          let (cs, rest) ← readText r
          some (charOfPair n low :: cs, rest)
        else none
      else
        let char ← Text.charOfCode? n
        let (cs, rest) ← readText ('\\' :: 'u' :: e :: f :: g :: h :: r)
        some (char :: cs, rest)
  | '\\' :: 'u' :: a :: b :: c :: d :: r => do
      let n ← readUnit a b c d
      let char ← Text.charOfCode? n
      let (cs, rest) ← readText r
      some (char :: cs, rest)
  | '\\' :: c :: r => do
      let char ←
        if c = '"' ∨ c = '\\' ∨ c = '/' then some c
        else if c = 'b' then some '\x08'
        else if c = 'f' then some '\x0c'
        else if c = 'n' then some '\n'
        else if c = 'r' then some '\r'
        else if c = 't' then some '\t'
        else none
      let (cs, rest) ← readText r
      some (char :: cs, rest)
  | c :: r =>
      if c = '\\' ∨ c.toNat < 0x20 then none
      else do
        let (cs, rest) ← readText r
        some (c :: cs, rest)

/-- The digits at the front, at least one, and what follows them. -/
def readDigits (cs : List Char) : Option (List Char × List Char) :=
  match cs.span Char.isDigit with
  | ([], _) => none
  | (digits, rest) => some (digits, rest)

/-- The whole part of a number: a zero alone, or digits that start with none. -/
def readWhole : List Char → Option (List Char × List Char)
  | '0' :: r => some (['0'], r)
  | cs => readDigits cs

/-- The fraction of a number with its point, or nothing. -/
def readFraction : List Char → Option (List Char × List Char)
  | '.' :: r => (readDigits r).map fun (digits, rest) => ('.' :: digits, rest)
  | cs => some ([], cs)

/-- The exponent of a number with its letter, or nothing. -/
def readExponent : List Char → Option (List Char × List Char)
  | e :: sign :: r =>
      if e = 'e' ∨ e = 'E' then
        if sign = '+' ∨ sign = '-' then
          (readDigits r).map fun (digits, rest) => (e :: sign :: digits, rest)
        else (readDigits (sign :: r)).map fun (digits, rest) => (e :: digits, rest)
      else some ([], e :: sign :: r)
  | cs => some ([], cs)

/-- The number that a sign and a whole part spell when nothing else follows. -/
def integerOf (negative : Bool) (digits : List Char) : Json :=
  if negative then
    if digits = ['0'] then decimal "-0" else integer (-(Nat.ofDigitChars 10 digits 0 : Int))
  else integer (Nat.ofDigitChars 10 digits 0)

/-- A number. A zero with a minus sign is no whole number here, for no integer is one. -/
def readNumber (cs : List Char) : Option (Json × List Char) := do
  let (negative, unsigned) := match cs with
    | '-' :: r => (true, r)
    | _ => (false, cs)
  let (whole, afterWhole) ← readWhole unsigned
  let (fraction, afterFraction) ← readFraction afterWhole
  let (exponent, rest) ← readExponent afterFraction
  if fraction = [] ∧ exponent = [] then
    some (integerOf negative whole, rest)
  else
    let sign := if negative then ['-'] else []
    some (decimal (String.ofList (sign ++ whole ++ fraction ++ exponent)), rest)

mutual

/-- One value, and what follows it. -/
def readValue : Nat → List Char → Option (Json × List Char)
  | 0, _ => none
  | depth + 1, cs =>
    match skipSpace cs with
    | 'n' :: 'u' :: 'l' :: 'l' :: r => some (null, r)
    | 't' :: 'r' :: 'u' :: 'e' :: r => some (boolean true, r)
    | 'f' :: 'a' :: 'l' :: 's' :: 'e' :: r => some (boolean false, r)
    | '"' :: r => (readText r).map fun (s, rest) => (text (String.ofList s), rest)
    | '[' :: r =>
        match skipSpace r with
        | ']' :: rest => some (array [], rest)
        | _ => do
            let (item, afterItem) ← readValue depth r
            let (items, rest) ← readItems depth afterItem
            some (array (item :: items), rest)
    | '\x7b' :: r =>
        match skipSpace r with
        | '\x7d' :: rest => some (object [], rest)
        | _ => do
            let (first, afterField) ← readField depth r
            let (fields, rest) ← readFields depth afterField
            some (object (first :: fields), rest)
    | other => readNumber other

/-- The items behind the first one, up to the closing bracket. -/
def readItems : Nat → List Char → Option (List Json × List Char)
  | 0, _ => none
  | depth + 1, cs =>
    match skipSpace cs with
    | ']' :: rest => some ([], rest)
    | ',' :: r => do
        let (item, afterItem) ← readValue depth r
        let (items, rest) ← readItems depth afterItem
        some (item :: items, rest)
    | _ => none

/-- One field of an object: its name, a colon and its value. -/
def readField : Nat → List Char → Option ((String × Json) × List Char)
  | 0, _ => none
  | depth + 1, cs =>
    match skipSpace cs with
    | '"' :: r => do
        let (name, afterName) ← readText r
        match skipSpace afterName with
        | ':' :: afterColon => do
            let (value, rest) ← readValue depth afterColon
            some ((String.ofList name, value), rest)
        | _ => none
    | _ => none

/-- The fields behind the first one, up to the closing brace. -/
def readFields : Nat → List Char → Option (List (String × Json) × List Char)
  | 0, _ => none
  | depth + 1, cs =>
    match skipSpace cs with
    | '\x7d' :: rest => some ([], rest)
    | ',' :: r => do
        let (first, afterField) ← readField depth r
        let (fields, rest) ← readFields depth afterField
        some (first :: fields, rest)
    | _ => none

end

/-- The document that a text spells, if it spells exactly one. -/
def read? (s : String) : Option Json := do
  let cs := s.toList
  let (j, rest) ← readValue (3 * cs.length + 3) cs
  if skipSpace rest = [] then some j else none

end Songbook.Json
