import Songbook.CommandLine.Run

/-!
# The program

Gathers the surroundings of a command, runs it and prints what it leaves. The music service is
out of reach from here, so that an extraction ends before anything is saved.
-/

namespace Songbook.Main

/-- What is at a path of the machine. -/
def entryAt (path : String) : IO (Option Entry) := do
  try
    return some (.file (← IO.FS.readBinFile path))
  catch e =>
    match e with
    | .inappropriateType .. => return some .directory
    | _ => return none

/-- The paths that are passed on the way to a path, itself at the end. -/
def onTheWay (p : Path) : List Path :=
  (List.range p.pieces.length).map fun n => { pieces := p.pieces.take (n + 1) }

/-- Add what is on the way to a path and at its end to a tree. -/
def observe (t : FileTree) (path : String) : IO FileTree := do
  let mut t := t
  for p in onTheWay (Path.ofText path) do
    if let .ok l := t.locate p then
      if let some e ← entryAt p.text then
        t := t.put l e
  return t

/-- The variables of the machine that matter. -/
def environment : IO Environment := do
  let names := Settings.required {}
  let values ← names.mapM fun name => do return (name, ← IO.getEnv name)
  return values.filterMap fun (name, value) => value.map fun v => (name, v)

/-- The paths that a command reads. -/
def pathsOf (arguments : List String) : List String :=
  match CommandLine.readArguments arguments with
  | .command (.query _ _ graph _) => [graph]
  | .command (.extract _) => [".env"]
  | _ => []

/-- Run a command. The input is read only when the command has shown a prompt. -/
def perform (arguments : List String) : IO UInt32 := do
  let workplace : Location := ["work"]
  let mut tree : FileTree := { ({} : FileTree).makeDirectory workplace with here := workplace }
  for path in pathsOf arguments do
    tree ← observe tree path
  let surroundings : CommandLine.Surroundings :=
    { environment := ← environment, disk := { tree } }
  let before := CommandLine.run surroundings arguments
  let stdout ← IO.getStdout
  stdout.putStr before.prompt
  stdout.flush
  let mut outcome := before
  if before.prompt != "" then
    let line ← (← IO.getStdin).getLine
    outcome := CommandLine.run { surroundings with input := line.toUTF8.toList } arguments
  stdout.putStr outcome.printed
  stdout.flush
  (← IO.getStderr).putStr outcome.err
  return UInt32.ofNat outcome.code

end Songbook.Main

/-- The program. -/
def main (arguments : List String) : IO UInt32 := Songbook.Main.perform arguments
