import Songbook.Selection
import Songbook.Text.Alphanumeric

/-!
# Environments

An environment gives values to the names of variables. A file can add variables to it, one
assignment a line, but never changes a variable that has a value already. A value may be
quoted and may then extend over several lines; outside of single quotes it may refer to
other variables. Reading a file stops at the first line that is no assignment; the assignments
before that line count.
-/

namespace Songbook

/-- The variables that have values. -/
abbrev Environment := List (String × String)

namespace Environment

/-- The value of a variable. -/
def get? (e : Environment) (name : String) : Option String := List.lookup name e

/-- Give a variable a value unless it has one. -/
def supply (e : Environment) (name value : String) : Environment :=
  if (e.get? name).isSome then e else e ++ [(name, value)]

/-! ### Lines -/

/-- What the end of a line means for the characters after it. -/
inductive Quoting
  | bare
  | afterBlank
  | escaped
  | weak
  | weakEscaped
  | strong
  | strongEscaped
  deriving DecidableEq, Repr

/-- What a character outside of quotes leads to. -/
def Quoting.outside (c : Char) : Quoting :=
  if c = '\\' then .escaped
  else if c = '"' then .weak
  else if c = '\'' then .strong
  else .bare

/-- The quoting after a character. -/
def Quoting.next (q : Quoting) (c : Char) : Quoting :=
  match q with
  | bare => if Text.isBlank c && c != '\n' && c != '\r' then .afterBlank else .outside c
  | afterBlank => .outside c
  | escaped => .bare
  | weak => if c = '\\' then .weakEscaped else if c = '"' then .bare else .weak
  | weakEscaped => .weak
  | strong => if c = '\\' then .strongEscaped else if c = '\'' then .bare else .strong
  | strongEscaped => .strong

/-- The quoting at the end of a line, or what stands before the sign of a comment. A comment
starts behind a blank. -/
def scanLine : Quoting → List Char → List Char → Except (List Char) Quoting
  | q, _, [] => .ok q
  | q, before, c :: r =>
    if q = .afterBlank ∧ c = '#' then .error before.reverse
    else scanLine (q.next c) (c :: before) r

/-- A line without the break at its end. -/
def withoutBreak (cs : List Char) : List Char :=
  match cs.reverse with
  | '\n' :: '\r' :: r => r.reverse
  | '\n' :: r => r.reverse
  | _ => cs

/-- The assignments that lines spell: a line is continued until its quotes are closed. Lines
that are comments count as empty. `none` stands for lines that cannot be read. -/
def assignmentLines : List Char → Quoting → List (Option (List Char)) → List (Option (List Char))
  | _, q, [] => if q = .bare then [] else [none]
  | _, _, none :: _ => [none]
  | begun, q, some line :: rest =>
    let text := begun ++ line
    if (Text.trimStart text).head? = some '#' then assignmentLines [] .bare rest
    else
      match scanLine q [] line with
      | .error before => some (begun ++ before) :: assignmentLines [] .bare rest
      | .ok .bare => some (withoutBreak text) :: assignmentLines [] .bare rest
      | .ok pending => assignmentLines text pending rest

/-! ### Values -/

/-- What is being read inside a value. -/
inductive Place
  | plain
  | escaped
  | strong
  /-- A reference to a variable, in braces or without, and the name so far. -/
  | naming (braced : Bool) (name : List Char)
  /-- Behind the value only blanks and a comment may follow. -/
  | ended
  | comment
  deriving DecidableEq, Repr

/-- A value up to a character of its spelling. -/
structure Value where
  text : List Char := []
  /-- Inside double quotes. -/
  weak : Bool := false
  place : Place := .plain

/-- What an escaped character stands for. -/
def unescape? (c : Char) : Option Char :=
  if c = 'n' then some '\n'
  else if c = '\\' ∨ c = '\'' ∨ c = '"' ∨ c = '$' ∨ c = ' ' then some c
  else none

/-- Read one more character of a value; `refer` gives the values of variables. -/
def Value.read (refer : String → String) (v : Value) (c : Char) : Option Value :=
  let replaced (name : List Char) : List Char := v.text ++ (refer (String.ofList name)).toList
  match v.place with
  | .comment => some v
  | .ended =>
    if c = ' ' ∨ c = '\t' then some v
    else if c = '#' then some { v with place := .comment }
    else none
  | .escaped => do return { v with text := v.text ++ [← unescape? c], place := .plain }
  | .strong =>
    if c = '\'' then some { v with place := .plain } else some { v with text := v.text ++ [c] }
  | .naming braced name =>
    if Text.isAlphanumeric c then some { v with place := .naming braced (name ++ [c]) }
    else if braced then
      if c = '\x7d' then some { v with text := replaced name, place := .plain }
      else some { v with place := .naming braced (name ++ [c]) }
    else if c = '\x7b' ∧ name = [] then some { v with place := .naming true [] }
    else if c = '$' then some { v with text := replaced name, place := .naming false [] }
    else some { v with text := replaced name ++ [c], place := .plain }
  | .plain =>
    if c = '$' then some { v with place := .naming false [] }
    else if c = '\\' then some { v with place := .escaped }
    else if v.weak then
      if c = '"' then some { v with weak := false } else some { v with text := v.text ++ [c] }
    else if c = '\'' then some { v with place := .strong }
    else if c = '"' then some { v with weak := true }
    else if c = ' ' ∨ c = '\t' then some { v with place := .ended }
    else some { v with text := v.text ++ [c] }

/-- The text of a value at the end of its spelling, if its quotes and braces are closed. -/
def Value.finish (refer : String → String) (v : Value) : Option String :=
  if v.weak then none
  else match v.place with
    | .strong | .naming true _ => none
    | .naming false name => some (String.ofList v.text ++ refer (String.ofList name))
    | _ => some (String.ofList v.text)

/-- The value that a text spells. -/
def readValue (refer : String → String) (cs : List Char) : Option String := do
  (← cs.foldlM (Value.read refer) {}).finish refer

/-! ### Assignments -/

/-- A name of letters, digits, underscores and points, and what follows it. -/
def readName : List Char → Option (String × List Char)
  | [] => none
  | c :: r =>
    if c.isAlpha || c == '_' then
      let cs := c :: r
      let belongs (c : Char) : Bool := c.isAlphanum || c == '_' || c == '.'
      some (String.ofList (cs.takeWhile belongs), Text.trimStart (cs.dropWhile belongs))
    else none

/-- A name, the sign of an assignment and what follows it. -/
def readTarget (cs : List Char) : Option (String × List Char) := do
  match ← readName cs with
  | (name, '=' :: rest) => return (name, Text.trimStart rest)
  | ("export", rest) =>
    match ← readName rest with
    | (name, '=' :: rest) => return (name, Text.trimStart rest)
    | _ => none
  | _ => none

/-- An environment while a file is read, with the values that the file itself gave. -/
structure Loading where
  environment : Environment
  given : Environment := []

/-- What a reference to a variable stands for: its value in the environment, or else the value
that the file gave it last, or else nothing. -/
def Loading.refer (l : Loading) (name : String) : String :=
  match l.environment.get? name with
  | some value => value
  | none => (l.given.get? name).getD ""

/-- Read one assignment, or nothing from a line that is blank or a comment. -/
def Loading.assign (l : Loading) (line : List Char) : Option Loading := do
  let cs := Text.trimEnd (Text.trimStart line)
  if cs = [] ∨ cs.head? = some '#' then return l
  let (name, spelling) ← readTarget cs
  let value ←
    if spelling.head? = some '#' then some "" else readValue l.refer spelling
  return { environment := l.environment.supply name value, given := (name, value) :: l.given }

/-- Read assignments up to the first one that is none. -/
def Loading.assignAll (l : Loading) : List (Option (List Char)) → Loading
  | [] => l
  | none :: _ => l
  | some line :: rest =>
    match l.assign line with
    | some next => next.assignAll rest
    | none => l

/-- The lines of a file, each with its break. -/
def linesOf (bytes : List UInt8) : List (List UInt8) :=
  match bytes with
  | [] => []
  | b :: r =>
    match linesOf r with
    | [] => [[b]]
    | line :: rest => if b = 10 then [b] :: line :: rest else (b :: line) :: rest

/-- A content without the mark that may stand at its beginning. -/
def withoutMark : List UInt8 → List UInt8
  | 0xEF :: 0xBB :: 0xBF :: rest => rest
  | bytes => bytes

/-- Add the assignments of a file to an environment. -/
def loadFile (e : Environment) (content : ByteArray) : Environment :=
  let lines := (linesOf (withoutMark content.toList)).map fun line =>
    (Prompt.textOfBytes line).map String.toList
  (Loading.assignAll { environment := e } (assignmentLines [] .bare lines)).environment

end Environment

end Songbook
