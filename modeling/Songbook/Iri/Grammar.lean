import Songbook.Text.Hex

/-!
# The grammar of internationalized resource identifiers

An identifier is split at its delimiters into a scheme, an authority, a path, a query and a
fragment, and each part is checked on its own. An absolute identifier has a scheme. Percent
signs must be followed by two hexadecimal digits, and private-use characters are allowed in
the query only.
-/

namespace Songbook.Iri

/-- The parts of an identifier or of a reference to one. -/
structure Parts where
  scheme : Option (List Char)
  authority : Option (List Char)
  path : List Char
  query : Option (List Char)
  fragment : Option (List Char)
  deriving DecidableEq, Repr

/-- Characters beyond ASCII that may stand in every part. -/
def isUniversal (c : Char) : Bool :=
  let n := c.toNat
  (0xA0 ≤ n && n ≤ 0xD7FF) || (0xF900 ≤ n && n ≤ 0xFDCF) || (0xFDF0 ≤ n && n ≤ 0xFFEF) ||
    (0x10000 ≤ n && n < 0xE0000 && n % 0x10000 ≤ 0xFFFD) || (0xE1000 ≤ n && n ≤ 0xEFFFD)

/-- Private-use characters, which may stand in a query. -/
def isPrivate (c : Char) : Bool :=
  let n := c.toNat
  (0xE000 ≤ n && n ≤ 0xF8FF) || (0xF0000 ≤ n && n ≤ 0xFFFFD) || (0x100000 ≤ n && n ≤ 0x10FFFD)

/-- Characters that never delimit anything, and those that delimit within a part. -/
def isPlain (c : Char) : Bool :=
  c.isAlphanum || "-._~!$&'()*+,;=".toList.contains c || isUniversal c

/-- Characters of a path or a fragment that need no percent sign. -/
def isCommon (c : Char) : Bool :=
  isPlain c || c == ':' || c == '@' || c == '/' || c == '?'

/-- Every character is allowed, or is a percent sign with its two digits. -/
def allAllowed (allowed : Char → Bool) : List Char → Bool
  | [] => true
  | '%' :: a :: b :: r => Text.isHexDigit a && Text.isHexDigit b && allAllowed allowed r
  | c :: r => c != '%' && allowed c && allAllowed allowed r

/-- The characters that delimit the authority and the path. -/
def isDelimiter (c : Char) : Bool := c == '/' || c == '?' || c == '#'

/-- A part behind its marker at the front, up to a character of the stop class, and the rest. -/
def splitMarked (marker : Char) (stop : Char → Bool) (cs : List Char) :
    Option (List Char) × List Char :=
  match cs with
  | c :: r =>
    if c = marker then (some (r.takeWhile (!stop ·)), r.dropWhile (!stop ·)) else (none, cs)
  | [] => (none, [])

/-- The parts that follow the scheme. -/
def splitRest (scheme : Option (List Char)) (cs : List Char) : Parts :=
  let (authority, afterAuthority) := match cs with
    | '/' :: '/' :: r => (some (r.takeWhile (!isDelimiter ·)), r.dropWhile (!isDelimiter ·))
    | _ => (none, cs)
  let isTail (c : Char) := c == '?' || c == '#'
  let path := afterAuthority.takeWhile (!isTail ·)
  let (query, afterQuery) := splitMarked '?' (· == '#') (afterAuthority.dropWhile (!isTail ·))
  let (fragment, _) := splitMarked '#' (fun _ => false) afterQuery
  { scheme, authority, path, query, fragment }

/-- The characters of a scheme behind its first letter. -/
def isSchemeChar (c : Char) : Bool := c.isAlphanum || c == '+' || c == '-' || c == '.'

/-- The scheme at the front, if a colon ends one, and what follows the colon. -/
def splitScheme (cs : List Char) : Option (List Char × List Char) :=
  match cs with
  | first :: _ =>
    if first.isAlpha then
      match cs.span isSchemeChar with
      | (scheme, ':' :: rest) => some (scheme, rest)
      | _ => none
    else none
  | [] => none

/-- The parts of a reference. -/
def Parts.ofChars (cs : List Char) : Parts :=
  match splitScheme cs with
  | some (scheme, rest) => splitRest (some scheme) rest
  | none => splitRest none cs

/-- One decimal group of an embedded address: at most three digits without a leading zero. -/
def readOctet (cs : List Char) : Option (List Char) :=
  let digits := cs.takeWhile Char.isDigit
  if digits = [] ∨ 3 < digits.length ∨ (digits.head? = some '0' ∧ 1 < digits.length) ∨
      255 < Nat.ofDigitChars 10 digits 0 then none
  else some (cs.dropWhile Char.isDigit)

/-- Four decimal groups with points between them. -/
def readOctets (cs : List Char) : Option (List Char) := do
  let point : List Char → Option (List Char)
    | '.' :: r => some r
    | _ => none
  let a ← readOctet cs
  let b ← (point a).bind readOctet
  let c ← (point b).bind readOctet
  (point c).bind readOctet

/-- One hexadecimal group of an address: one to four digits. -/
def readGroup (cs : List Char) : Option (List Char) :=
  let digits := cs.takeWhile Text.isHexDigit
  if digits = [] ∨ 4 < digits.length then none else some (cs.dropWhile Text.isHexDigit)

/-- The groups at the front with colons between them, at most `room` of them: how many were
read, whether the last two were an embedded address, and what follows. -/
def readGroups (first : Bool) : Nat → List Char → Nat × Bool × List Char
  | 0, cs => (0, false, cs)
  | room + 1, cs =>
    let start : Option (List Char) :=
      if first then some cs else match cs with
        | ':' :: r => some r
        | _ => none
    match start with
    | none => (0, false, cs)
    | some inner =>
      match (if 1 ≤ room then readOctets inner else none) with
      | some rest => (2, true, rest)
      | none =>
        match readGroup inner with
        | some rest =>
          let (count, embedded, last) := readGroups false room rest
          (count + 1, embedded, last)
        | none => (0, false, cs)

/-- An address of eight groups, of which a double colon may leave some out. -/
def isAddress (cs : List Char) : Bool :=
  match readGroups true 8 cs with
  | (8, _, rest) => rest.isEmpty
  | (count, false, ':' :: ':' :: rest) =>
      let (_, _, last) := readGroups true (7 - count) rest
      last.isEmpty
  | _ => false

/-- An address of a later version: its number in hexadecimal, a point and its text, which is
ASCII. -/
def isLaterAddress (cs : List Char) : Bool :=
  match cs.span Text.isHexDigit with
  | (version, '.' :: rest) =>
      !version.isEmpty && !rest.isEmpty &&
        rest.all fun c => c == ':' || (isPlain c && !isUniversal c)
  | _ => false

/-- A host, and after it nothing or a colon and any number of digits. -/
def isHost (cs : List Char) : Bool :=
  let isPort : List Char → Bool
    | [] => true
    | ':' :: digits => digits.all Char.isDigit
    | _ => false
  match cs with
  | '[' :: r =>
    match r.span (· != ']') with
    | (literal, ']' :: rest) =>
        isPort rest && match literal with
          | 'v' :: later => isLaterAddress later
          | 'V' :: later => isLaterAddress later
          | _ => isAddress literal
    | _ => false
  | _ => allAllowed isPlain (cs.takeWhile (· != ':')) && isPort (cs.dropWhile (· != ':'))

/-- An authority: a host, with a user in front of the first at sign. -/
def isAuthority (cs : List Char) : Bool :=
  match cs.span (fun c => c != '@' && c != '[') with
  | (user, '@' :: host) => allAllowed (fun c => isPlain c || c == ':') user && isHost host
  | _ => isHost cs

/-- Every part but the scheme follows the grammar. -/
def Parts.wellFormed (p : Parts) : Bool :=
  p.authority.all isAuthority && allAllowed isCommon p.path &&
    p.query.all (allAllowed fun c => isCommon c || isPrivate c) &&
    p.fragment.all (allAllowed isCommon)

/-- A text that is an absolute identifier. -/
def isAbsolute (cs : List Char) : Bool :=
  let parts := Parts.ofChars cs
  parts.scheme.isSome && parts.wellFormed

end Songbook.Iri
