import Songbook.Error

/-!
# Identifiers of the service

The service names its objects by identifiers of letters and digits. An identifier is given
alone or as an address, `spotify:track:…` or `spotify/track/…`, that tells its type as well;
every address that this library writes has the first of these forms.
-/

namespace Songbook

/-- Letters and digits of ASCII. -/
structure Identifier where
  text : String
  plain : text.toList.all Char.isAlphanum = true
  deriving DecidableEq

namespace Identifier

/-- The identifier that a text is. -/
def ofText (text : String) : Except IdentifierFault Identifier :=
  if h : text.toList.all Char.isAlphanum = true then .ok ⟨text, h⟩ else .error .badCharacters

/-- The rest of an address behind the name of the service, with the separator it uses. -/
def behindService? : List Char → Option (Char × List Char)
  | 's' :: 'p' :: 'o' :: 't' :: 'i' :: 'f' :: 'y' :: ':' :: rest => some (':', rest)
  | 's' :: 'p' :: 'o' :: 't' :: 'i' :: 'f' :: 'y' :: '/' :: rest => some ('/', rest)
  | _ => none

/-- The parts before and after the last occurrence of a separator. -/
def splitLast (separator : Char) (cs : List Char) : Option (List Char × List Char) :=
  match cs.reverse.span (· ≠ separator) with
  | (after, _ :: before) => some (before.reverse, after.reverse)
  | (_, []) => none

/-- The identifier that a text gives for an object of a type. -/
def read (type : String) (text : String) : Except IdentifierFault Identifier :=
  match behindService? text.toList with
  | none => ofText text
  | some (separator, rest) =>
    match splitLast separator rest with
    | none => .error .badFormat
    | some (given, identifier) =>
      if String.ofList given = type then ofText (String.ofList identifier) else .error .badType

/-- The address of an object of a type. -/
def address (type : String) (i : Identifier) : String := "spotify:" ++ type ++ ":" ++ i.text

end Identifier

end Songbook
