/-!
# Language tags

A language tag is a sequence of subtags with hyphens between them. After the language come
extended languages, a script, a region, variants, extensions and a private-use part, in this
order; some tags that were registered before these rules are kept as they are. Tags are
compared in lower case, and only lower case is kept.
-/

namespace Songbook.Rdf.LanguageTag

/-- Tags that were registered before the general rules. -/
def grandfathered : List String :=
  ["art-lojban", "cel-gaulish", "en-gb-oed", "i-ami", "i-bnn", "i-default", "i-enochian",
   "i-hak", "i-klingon", "i-lux", "i-mingo", "i-navajo", "i-pwn", "i-tao", "i-tay", "i-tsu",
   "no-bok", "no-nyn", "sgn-be-fr", "sgn-be-nl", "sgn-ch-de", "zh-guoyu", "zh-hakka",
   "zh-min", "zh-min-nan", "zh-xiang"]

/-- The part of a tag that the last subtag belonged to. -/
inductive Stage
  | start
  | language (extensions : Nat)
  | extended
  | script
  | region
  | extension (empty : Bool)
  | privateUse (empty : Bool)
  deriving DecidableEq, Repr

/-- The stages in which a script may follow. -/
def Stage.beforeScript : Stage → Bool
  | .language _ => true
  | .extended => true
  | _ => false

/-- The stages in which a region may follow. -/
def Stage.beforeRegion (stage : Stage) : Bool := stage.beforeScript || stage == .script

/-- The stages in which a variant may follow. -/
def Stage.beforeVariant (stage : Stage) : Bool := stage.beforeRegion || stage == .region

/-- The stages in which a tag may end. -/
def Stage.final : Stage → Bool
  | .start => false
  | .extension empty => !empty
  | .privateUse empty => !empty
  | _ => true

/-- A variant has five characters, or four that begin with a digit. -/
def isVariant (subtag : List Char) : Bool :=
  subtag.all Char.isAlphanum &&
    match subtag with
    | first :: _ =>
        (5 ≤ subtag.length && first.isAlpha) || (4 ≤ subtag.length && first.isDigit)
    | [] => false

/-- The stage after one more subtag in lower case, if it may follow. -/
def Stage.next (stage : Stage) (subtag : List Char) : Option Stage :=
  let size := subtag.length
  let letters := subtag.all Char.isAlpha
  if size = 0 ∨ 8 < size then none
  else match stage with
    | .start =>
        if 2 ≤ size ∧ letters then some (if size < 4 then .language 0 else .extended) else none
    | .privateUse _ => if subtag.all Char.isAlphanum then some (.privateUse false) else none
    | .extension true =>
        if 1 < size ∧ subtag.all Char.isAlphanum then some (.extension false) else none
    | stage =>
        if subtag = ['x'] then some (.privateUse true)
        else if size = 1 ∧ subtag.all Char.isAlphanum then some (.extension true)
        else if stage = .extension false then
          if subtag.all Char.isAlphanum then some (.extension false) else none
        else
          match stage, letters && size == 3 with
          | .language n, true => if n < 3 then some (.language (n + 1)) else none
          | _, _ =>
            if stage.beforeScript ∧ size = 4 ∧ letters then some .script
            else if stage.beforeRegion ∧
                (size = 2 ∧ letters ∨ size = 3 ∧ subtag.all Char.isDigit) then some .region
            else if stage.beforeVariant ∧ isVariant subtag then some .region
            else none

/-- The subtags of a tag, which are what stands between its hyphens. -/
def subtags (tag : List Char) : List (List Char) :=
  tag.foldr (fun c acc =>
    if c = '-' then [] :: acc
    else match acc with
      | first :: rest => (c :: first) :: rest
      | [] => [[c]]) [[]]

/-- The rules that a tag in lower case follows. -/
def isWellFormed (tag : List Char) : Bool :=
  grandfathered.contains (String.ofList tag) ||
    match tag with
    | 'x' :: '-' :: r => ((subtags r).foldlM Stage.next (.privateUse true)).any Stage.final
    | _ => ((subtags tag).foldlM Stage.next .start).any Stage.final

/-- A tag in lower case, if it follows the rules. -/
def read? (tag : List Char) : Option String :=
  let lower := tag.map Char.toLower
  if isWellFormed lower then some (String.ofList lower) else none

end Songbook.Rdf.LanguageTag
