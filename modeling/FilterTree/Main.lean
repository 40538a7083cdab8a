/-
Module: FilterTree.Main
Layer: Command
Purpose: The program. It gathers the arguments, the environment and the texts of the files that the options
  name, and hands all of them to `Command.run`.
Imports: FilterTree.Command.Run
Main exports: main
-/
import FilterTree.Command.Run

open FilterTree

/-- The text of a file, if it can be read. -/
def readText? (name : String) : IO (Option String) := do
  try
    let text ← IO.FS.readFile name
    return some text
  catch _ => return none

/-- The texts of the files that the options name, by their names. -/
def readNamed (options : Command.Options) : IO (List (String × Option String)) := do
  let names := options.tree.toList ++ (if options.remote then [] else options.data.toList)
  names.mapM fun name => do
    let text ← readText? name
    return (name, text)

/-- The whole standard input, if the options ask for it. -/
def readStdin (options : Command.Options) : IO ByteArray := do
  if options.stdin && !options.remote && options.data.isNone then
    let stdin ← IO.getStdin
    IO.FS.Stream.readBinToEnd stdin
  else return ByteArray.empty

def main (args : List String) : IO UInt32 := do
  let environment ← IO.getEnv "QFILTER_TREE"
  match Command.Options.ofArgs? args environment with
  | none =>
    IO.eprintln "The options cannot be used."
    return Command.exitUnusable
  | some options =>
    let named ← readNamed options
    let stdin ← readStdin options
    let file (name : String) : Option String := (named.find? (·.1 == name)).bind Prod.snd
    let outcome := Command.run options ⟨file, stdin⟩
    IO.print outcome.output
    if outcome.exit == Command.exitUnusable then IO.eprintln "The filter tree or the records cannot be used."
    return outcome.exit
