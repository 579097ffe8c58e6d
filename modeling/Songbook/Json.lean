/-!
# JSON documents

A document is a value of `Json`. Whole numbers are kept as integers; every other spelling of
a number is kept as its text, because nothing here calculates with one. The fields of an
object keep the order in which they are written.
-/

namespace Songbook

/-- A JSON document. -/
inductive Json
  | null
  | boolean (value : Bool)
  | integer (value : Int)
  | decimal (spelling : String)
  | text (value : String)
  | array (items : List Json)
  | object (fields : List (String × Json))
  deriving Inhabited

namespace Json

/-- The field of an object with a name, or `null` when there is none. -/
def field (name : String) : Json → Json
  | object fields => ((fields.find? (·.1 == name)).map (·.2)).getD null
  | _ => null

/-- Whether an object has a field with a name. -/
def hasField (name : String) : Json → Bool
  | object fields => fields.any (·.1 == name)
  | _ => false

/-- The value of a text. -/
def asText? : Json → Option String
  | text s => some s
  | _ => none

/-- The value of a whole number. -/
def asInteger? : Json → Option Int
  | integer n => some n
  | _ => none

/-- The value of a truth value. -/
def asBoolean? : Json → Option Bool
  | boolean b => some b
  | _ => none

/-- The items of an array. -/
def asArray? : Json → Option (List Json)
  | array items => some items
  | _ => none

/-- The fields of an object. -/
def asObject? : Json → Option (List (String × Json))
  | object fields => some fields
  | _ => none

/-- Whether a document is `null`. -/
def isNull : Json → Bool
  | null => true
  | _ => false

/-- A document as an object. An array stands for the object whose fields have the given names
in this order; the names under `spare` may be left out at its end. -/
def withFields? (names : List String) (j : Json) (spare : List String := []) : Option Json :=
  match j with
  | object fields => some (object fields)
  | array items =>
      if names.length ≤ items.length ∧ items.length ≤ names.length + spare.length then
        some (object ((names ++ spare).zip items))
      else none
  | _ => none

/-- What an optional value reads as: nothing for `null`, and otherwise what `read` makes of it. -/
def optional? {α : Type} (read : Json → Option α) : Json → Option (Option α)
  | null => some none
  | j => (read j).map some

end Json

end Songbook
