import Songbook.Request
import Songbook.Settings

/-!
# Arguments

The first argument is a command; options follow it, each with a value and in any order. A value
stands behind its option, as an argument of its own that does not look like an option, or
attached to it. Arguments are read from left to right, and the first one that asks for help or
that is wrong decides.
-/

namespace Songbook.CommandLine

/-- The commands. -/
inductive CommandName
  | extract
  | query
  deriving DecidableEq, Repr

/-- The options that take a value. -/
inductive OptionName
  | playlistId
  | output
  | question
  | threshold
  | graph
  | format
  deriving DecidableEq, Repr

/-- A command with the values of its options. -/
inductive Command
  | extract (overrides : Overrides)
  | query (question : Question) (threshold : Option String) (graph : String) (format : Format)
  deriving DecidableEq, Repr

/-- What arguments ask for. -/
inductive Invocation
  | help
  | version
  /-- The arguments are wrong. -/
  | misuse
  | command (c : Command)
  deriving DecidableEq, Repr

/-- The command with a name. -/
def CommandName.ofWord? : String → Option CommandName
  | "extract" => some .extract
  | "query" => some .query
  | _ => none

/-- The option of a command with a long name. -/
def OptionName.ofLong? : CommandName → String → Option OptionName
  | .extract, "playlist-id" => some .playlistId
  | .extract, "output" => some .output
  | .query, "query" => some .question
  | .query, "min-duration" => some .threshold
  | .query, "min_duration" => some .threshold
  | .query, "graph" => some .graph
  | .query, "format" => some .format
  | _, _ => none

/-- The option of a command with a letter. -/
def OptionName.ofLetter? : CommandName → Char → Option OptionName
  | .extract, 'o' => some .output
  | .query, 'q' => some .question
  | .query, 'g' => some .graph
  | _, _ => none

/-- Whether an option takes a value. -/
def OptionName.takes (o : OptionName) (value : String) : Bool :=
  match o with
  | .playlistId | .threshold => true
  | .output | .graph => value != ""
  | .question => (Question.ofWord? value).isSome
  | .format => (Format.ofWord? value).isSome

/-- The ways an argument can look. -/
inductive Look
  /-- Two dashes: no option follows. -/
  | separator
  /-- Two dashes and a name, with an attached value or without one. -/
  | long (name : String) (value : Option String)
  /-- A dash and a letter, and what is attached to it. -/
  | short (letter : Char) (rest : List Char)
  | plain
  deriving DecidableEq, Repr

/-- The name and the attached value of a long option. -/
def lookLong (cs : List Char) : Look :=
  match cs.span (· ≠ '=') with
  | (name, _ :: value) => .long (String.ofList name) (some (String.ofList value))
  | (name, []) => .long (String.ofList name) none

/-- How an argument looks. A dash alone is no option. -/
def look (argument : String) : Look :=
  match argument.toList with
  | ['-', '-'] => .separator
  | '-' :: '-' :: rest => lookLong rest
  | '-' :: letter :: rest => .short letter rest
  | _ => .plain

/-- The value attached to a letter. A sign of equality in front of it is left out. -/
def attached? : List Char → Option String
  | [] => none
  | '=' :: value => some (String.ofList value)
  | value => some (String.ofList value)

/-- The options that were given so far with their values. -/
abbrev Given := List (OptionName × String)

/-- Add an option. No option is given twice, and its value must be one that it takes. -/
def Given.add (given : Given) (o : OptionName) (value : String) : Option Given :=
  if (List.lookup o given).isSome || !o.takes value then none else some ((o, value) :: given)

/-- The command that options make up. A query needs a question. -/
def Given.command? (given : Given) : CommandName → Option Command
  | .extract => some (.extract
      { playlistId := List.lookup .playlistId given, output := List.lookup .output given })
  | .query => do
    let question ← (List.lookup .question given).bind Question.ofWord?
    return .query question (List.lookup .threshold given)
      ((List.lookup .graph given).getD Settings.defaultOutput)
      (((List.lookup .format given).bind Format.ofWord?).getD .text)

/-- What an option in the look of an argument is: one that takes a value, with the value if it
is attached, or a wish for help, or nothing that the command knows. -/
inductive Meaning
  | takesValue (o : OptionName) (value : Option String)
  | help
  | unknown
  deriving DecidableEq, Repr

/-- What the look of an argument means to a command. -/
def Look.meaning (name : CommandName) : Look → Meaning
  | long "help" none => .help
  | long word value =>
    match OptionName.ofLong? name word with
    | some o => .takesValue o value
    | none => .unknown
  | short 'h' _ => .help
  | short letter rest =>
    match OptionName.ofLetter? name letter with
    | some o => .takesValue o (attached? rest)
    | none => .unknown
  | separator => .unknown
  | plain => .unknown

/-- What the options that were given make of a command, at the end of the arguments. -/
def Given.finish (given : Given) (name : CommandName) : Invocation :=
  match given.command? name with
  | some c => .command c
  | none => .misuse

/-- Read the options of a command. The two dashes may stand at the end. -/
def readOptions (name : CommandName) (given : Given) : List String → Invocation
  | [] => given.finish name
  | argument :: rest =>
    if look argument = .separator then
      if rest = [] then given.finish name else .misuse
    else
      match (look argument).meaning name with
      | .help => .help
      | .unknown => .misuse
      | .takesValue o (some value) =>
        match given.add o value with
        | some more => readOptions name more rest
        | none => .misuse
      | .takesValue o none =>
        match rest with
        | [] => .misuse
        | value :: others =>
          if look value = .plain then
            match given.add o value with
            | some more => readOptions name more others
            | none => .misuse
          else .misuse

/-- What arguments ask for. -/
def readArguments : List String → Invocation
  | [] => .misuse
  | "help" :: [] => .help
  | "help" :: word :: [] =>
    if word = "help" ∨ (CommandName.ofWord? word).isSome then .help else .misuse
  | "help" :: _ => .misuse
  | first :: rest =>
    match CommandName.ofWord? first with
    | some name => readOptions name [] rest
    | none =>
      match look first with
      | .long "help" none => .help
      | .long "version" none => .version
      | .short 'h' _ => .help
      | .short 'V' _ => .version
      | _ => .misuse

end Songbook.CommandLine
