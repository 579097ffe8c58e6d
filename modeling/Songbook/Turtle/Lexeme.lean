import Songbook.Rdf.Literal
import Songbook.Text.Escape
import Songbook.Text.NameChar

/-!
# Lexemes of documents

A document is made of identifiers in angle brackets, abbreviated names, blank nodes, quoted
texts, numbers, words and marks. White space and comments stand between them.
`Lexeme.readAll` splits a text into its lexemes and fails where no lexeme begins. Escapes are
undone here, so a lexeme holds what was meant.
-/

namespace Songbook.Turtle

open Rdf

/-- The smallest unit of a document. -/
inductive Lexeme
  /-- A reference in angle brackets. -/
  | reference (text : List Char)
  /-- An abbreviated name: what stands before its first colon and what stands behind. Of a
  doubtful name it is not clear that an identifier may end in it. -/
  | abbreviation (space : List Char) (name : List Char) (doubtful : Bool)
  /-- A blank node with a label. -/
  | blank (label : List Char)
  /-- A quoted text. -/
  | quoted (text : List Char)
  /-- A word behind an at sign. -/
  | marked (word : List Char)
  /-- A number. -/
  | number (kind : NumberKind) (spelling : List Char)
  /-- A word that is no abbreviated name. -/
  | word (spelling : List Char)
  /-- Anything else that stands for itself. -/
  | mark (sign : String)
  deriving DecidableEq, Repr

namespace Lexeme

/-! ### Texts and words -/

/-- A quoted text behind its first quote: three quotes open a text over several lines. -/
def readQuoted (quote : Char) (cs : List Char) : Option (List Char × List Char) :=
  if cs.take 2 = [quote, quote] then Text.readLong Text.looseCode? quote (cs.drop 2)
  else Text.readShort Text.looseCode? quote cs

/-- The runs of letters behind the first one, each with its hyphen. -/
def readSubtags : Nat → List Char → List Char × List Char
  | room + 1, '-' :: c :: r =>
    if c.isAlpha then
      let (more, rest) := readSubtags room (r.dropWhile Char.isAlpha)
      ('-' :: c :: r.takeWhile Char.isAlpha ++ more, rest)
    else ([], '-' :: c :: r)
  | _, cs => ([], cs)

/-- A word behind an at sign: letters, which may be divided by hyphens. -/
def readMarked (cs : List Char) : Option (List Char × List Char) :=
  match cs.span Char.isAlpha with
  | ([], _) => none
  | (first, rest) =>
      let (more, rest) := readSubtags rest.length rest
      some (first ++ more, rest)

/-- The rest of a label of a blank node. A point belongs to it if another character of the label
follows. A label must not be the last thing of a document. -/
def readLabelTail : List Char → Option (List Char × List Char)
  | [] => none
  | ['.'] => none
  | '.' :: c :: r =>
      if Text.isNameChar c then do
        let (label, rest) ← readLabelTail (c :: r)
        return ('.' :: label, rest)
      else some ([], '.' :: c :: r)
  | c :: r =>
      if Text.isNameChar c then do
        let (label, rest) ← readLabelTail r
        return (c :: label, rest)
      else some ([], c :: r)

/-- A label of a blank node. -/
def readLabel : List Char → Option (List Char × List Char)
  | c :: r =>
    if Text.isNameStart c || c.isDigit then do
      let (label, rest) ← readLabelTail r
      return (c :: label, rest)
    else none
  | [] => none

/-! ### Names -/

/-- A character that no identifier holds although a name may. -/
def isDoubtful (c : Char) : Bool :=
  let n := c.toNat
  (0xFFF0 ≤ n && n ≤ 0xFFFD) || n == 0x1FFFE

/-- A local name up to a character of its spelling, backwards. It is divided behind the last
character that was escaped. -/
structure LocalName where
  settled : List Char := []
  unsettled : List Char := []
  escaped : Bool := false
  doubtful : Bool := false

namespace LocalName

/-- The whole name so far. -/
def text (n : LocalName) : List Char := (n.unsettled ++ n.settled).reverse

/-- The name with one more character. -/
def push (n : LocalName) (c : Char) : LocalName :=
  { n with unsettled := c :: n.unsettled, doubtful := n.doubtful || c == ':' || isDoubtful c }

/-- The name with one more character that is escaped. -/
def pushEscaped (n : LocalName) (c : Char) : LocalName where
  settled := c :: (n.unsettled ++ n.settled)
  unsettled := []
  escaped := true
  doubtful := n.doubtful || "/?#@%".toList.contains c

/-- Read as many characters as a local name may have, with points at its end. -/
def read (n : LocalName) : List Char → Option (LocalName × List Char)
  | [] => some (n, [])
  | '%' :: a :: b :: r =>
      if Text.isHexDigit a && Text.isHexDigit b then
        { n with unsettled := b :: a :: '%' :: n.unsettled }.read r
      else none
  | '\\' :: c :: r => if Text.isLocalEscape c then (n.pushEscaped c).read r else none
  | c :: r =>
      if c = '%' ∨ c = '\\' then none
      else if Text.isNameChar c || c == ':' || c == '.' then (n.push c).read r
      else some (n, c :: r)

end LocalName

/-- A local name, which may be empty, whether it is doubtful, and what follows it. Points at its
end do not belong to it. At the end of a document a name with escapes ends in the last of them,
and as many characters as it has points at its end are given back. -/
def readLocal (cs : List Char) : Option (List Char × Bool × List Char) :=
  match cs with
  | [] => some ([], false, [])
  | c :: _ =>
    if Text.isNameStart c || c == ':' || c.isDigit || c == '%' || c == '\\' then do
      let (n, rest) ← LocalName.read {} cs
      if rest = [] ∧ n.escaped then
        let points := (n.settled.takeWhile (· == '.')).length
        return ((n.settled.drop points).reverse, n.doubtful, cs.drop (cs.length - points))
      else
        let points := n.unsettled.takeWhile (· == '.')
        let whole := { n with unsettled := n.unsettled.drop points.length }
        return (whole.text, n.doubtful, points ++ rest)
    else some ([], false, cs)

/-- A character that may follow in a name, or a point. -/
def isNameOrPoint (c : Char) : Bool := Text.isNameChar c || c == '.'

/-- An abbreviated name, or a word if no colon follows. The last points of a word do not belong
to it. -/
def readName (cs : List Char) : Option (Lexeme × List Char) :=
  match cs.span isNameOrPoint with
  | (space, ':' :: r) =>
      if space.getLast? = some '.' then none
      else (readLocal r).map fun (name, doubtful, rest) => (abbreviation space name doubtful, rest)
  | (run, rest) =>
      let points := (run.reverse.takeWhile (· == '.')).length
      some (word (run.take (run.length - points)), run.drop (run.length - points) ++ rest)

/-! ### Numbers -/

/-- The exponent at the front: a letter, an optional sign and digits. -/
def readExponent : List Char → Option (List Char × List Char)
  | e :: r =>
    if e = 'e' ∨ e = 'E' then
      let (sign, unsigned) := match r with
        | '+' :: u => (['+'], u)
        | '-' :: u => (['-'], u)
        | _ => ([], r)
      let digits := unsigned.takeWhile Char.isDigit
      some (e :: sign ++ digits, unsigned.dropWhile Char.isDigit)
    else none
  | [] => none

/-- A number. A point belongs to it only if a digit or an exponent follows. -/
def readNumber (cs : List Char) : Option (NumberKind × List Char × List Char) :=
  let (sign, unsigned) := match cs with
    | '+' :: r => (['+'], r)
    | '-' :: r => (['-'], r)
    | _ => ([], cs)
  let whole := unsigned.takeWhile Char.isDigit
  let afterWhole := unsigned.dropWhile Char.isDigit
  let (fraction, afterFraction) := match afterWhole with
    | '.' :: r => ('.' :: r.takeWhile Char.isDigit, r.dropWhile Char.isDigit)
    | _ => ([], afterWhole)
  let hasDigits := !whole.isEmpty || 1 < fraction.length
  match readExponent afterFraction with
  | some (exponent, rest) =>
      if hasDigits && (exponent.getLast?.any Char.isDigit) then
        some (.scientific, sign ++ whole ++ fraction ++ exponent, rest)
      else none
  | none =>
      if !hasDigits then none
      else if 1 < fraction.length then
        some (.pointed, sign ++ whole ++ fraction, afterFraction)
      else some (.whole, sign ++ whole, afterWhole)

/-! ### All lexemes -/

/-- A mark. -/
def readMark : List Char → Option (Lexeme × List Char)
  | '^' :: '^' :: r => some (mark "^^", r)
  | c :: r => if ".,;[]()".toList.contains c then some (mark (String.singleton c), r) else none
  | [] => none

/-- The lexeme at the front, and what follows it. -/
def read? (cs : List Char) : Option (Lexeme × List Char) :=
  match cs with
  | [] => none
  | '<' :: r => (Text.readReference r).map fun (text, rest) => (reference text, rest)
  | '"' :: r => (readQuoted '"' r).map fun (text, rest) => (quoted text, rest)
  | '\'' :: r => (readQuoted '\'' r).map fun (text, rest) => (quoted text, rest)
  | '@' :: r => (readMarked r).map fun (text, rest) => (marked text, rest)
  | '_' :: ':' :: r => (readLabel r).map fun (label, rest) => (blank label, rest)
  | c :: r =>
      if Text.isNameBase c || c == ':' then readName cs
      else if c.isDigit || c == '+' || c == '-' || (c == '.' && r.head?.any Char.isDigit) then
        (readNumber cs).map fun (kind, spelling, rest) => (number kind spelling, rest)
      else readMark cs

/-- All lexemes of a text. -/
def readAll (cs : List Char) : Option (List Lexeme) :=
  match Text.skipSpace false cs with
  | [] => some []
  | front =>
    match read? front with
    | none => none
    | some (lexeme, rest) =>
      if rest.length < cs.length then (readAll rest).map (lexeme :: ·) else none
termination_by cs.length

end Lexeme

end Songbook.Turtle
