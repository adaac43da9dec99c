/-
The program: its words, variables and standard input go to the commands, and
what these answer is printed.
-/
import BinlogCursor.Command

namespace BinlogCursor.Command

/-- The variables that a command may ask for, and their values. -/
def variableValues : IO (List (String × String)) := do
  let names :=
    [Settings.nameVariable, Settings.idVariable, Settings.includesVariable,
      Settings.excludesVariable, Settings.intervalVariable, startVariable]
  let values ← names.mapM fun name => do
    let value ← IO.getEnv name
    pure (value.map fun v => (name, v))
  pure (values.filterMap id)

/-- Reads standard input only for a replay; the other commands have none. -/
def inputFor (words : List String) : IO String := do
  match words with
  | "replay" :: _ => (← IO.getStdin).readToEnd
  | _ => pure ""

end BinlogCursor.Command

open BinlogCursor

def main (words : List String) : IO UInt32 := do
  let values ← Command.variableValues
  let input ← Command.inputFor words
  let reply := Command.run words (fun name => values.lookup name) input
  IO.print reply.output
  IO.eprint reply.complaint
  pure reply.exitCode.toUInt32
