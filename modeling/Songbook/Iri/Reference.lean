import Songbook.Iri

/-!
# References to identifiers

A reference is resolved against a base: parts that it leaves out are taken from the base, and
the segments `.` and `..` of its path are carried out. Without a base only an absolute
identifier can be referred to.
-/

namespace Songbook.Iri

/-- The text of parts with their delimiters. -/
def Parts.toChars (p : Parts) : List Char :=
  (p.scheme.elim [] (· ++ [':'])) ++ (p.authority.elim [] ('/' :: '/' :: ·)) ++ p.path ++
    (p.query.elim [] ('?' :: ·)) ++ (p.fragment.elim [] ('#' :: ·))

/-- The segments of a path, which are what stands between its slashes. -/
def segments (path : List Char) : List (List Char) :=
  path.foldr (fun c acc =>
    if c = '/' then [] :: acc
    else match acc with
      | first :: rest => (c :: first) :: rest
      | [] => [[c]]) [[]]

/-- A path that ends in a slash without its last segment. Under an authority the slash at the
front stays. -/
def parentPath (underAuthority : Bool) (path : List Char) : List Char :=
  match (path.dropLast.reverse.dropWhile (· != '/')).reverse with
  | [] => if underAuthority then ['/'] else []
  | parent => parent

/-- Segments put behind a path that is empty or ends in a slash, where `.` and `..` are carried
out. A path that ends in such a segment keeps its slash at the end. -/
def appendSegments (underAuthority : Bool) : List Char → List (List Char) → List Char
  | path, [] => path
  | path, segment :: rest =>
    if segment = ['.'] then appendSegments underAuthority path rest
    else if segment = ['.', '.'] then
      appendSegments underAuthority (parentPath underAuthority path) rest
    else if rest = [] then path ++ segment
    else appendSegments underAuthority (path ++ segment ++ ['/']) rest

/-- The directory of a base, which the path of a reference is put behind. -/
def directory (base : Parts) : List Char :=
  if base.authority.isSome && base.path.isEmpty then ['/']
  else (base.path.reverse.dropWhile (· != '/')).reverse

/-- The path of a reference read against a base. The base's own segments are kept as they are
unless `..` takes them away. -/
def resolvePath (base : Parts) (path : List Char) : List Char :=
  let start := if path.head? = some '/' then [] else directory base
  appendSegments base.authority.isSome start (segments path)

/-- The parts that a reference stands for when it is read against a base. A reference with a
scheme or an authority is kept as it is. -/
def Parts.resolve (base reference : Parts) : Parts :=
  if reference.scheme.isSome then reference
  else if reference.authority.isSome then { reference with scheme := base.scheme }
  else if reference.path.isEmpty then
    { base with
      query := if reference.query.isSome then reference.query else base.query
      fragment := reference.fragment }
  else
    { reference with
      scheme := base.scheme
      authority := base.authority
      path := resolvePath base reference.path }

/-- Whether the text of parts is split into these parts again: without an authority two slashes
must not stand in front of a path. -/
def Parts.unambiguous (p : Parts) : Bool :=
  p.authority.isSome || !("//".toList.isPrefixOf p.path)

/-- The identifier that a text refers to. A reference must not begin with a colon. -/
def refer? (base : Option Iri) (cs : List Char) : Option Iri :=
  match base with
  | none => ofString? (String.ofList cs)
  | some b =>
    let reference := Parts.ofChars cs
    let resolved := (Parts.ofChars b.text.toList).resolve reference
    if reference.wellFormed && cs.head? != some ':' && resolved.unambiguous then
      ofString? (String.ofList resolved.toChars)
    else none

end Songbook.Iri
