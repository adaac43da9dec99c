/-
The commands: comparing two positions, bringing a GTID set into its canonical
form, and replaying notifications. A command is given words, variables and the
lines of its input; it answers with an exit code and what is to be printed.
-/
import BinlogCursor.Cursor
import BinlogCursor.Notification.Json
import BinlogCursor.Pattern
import BinlogCursor.Position.Json
import BinlogCursor.Settings

namespace BinlogCursor.Command

structure Reply where
  exitCode : UInt8
  output : String
  complaint : String
deriving DecidableEq

def usage : String :=
  "usage: binlog_position compare <a> <b> | normalize-gtid <set> | replay\n"

def startVariable : String := "CDC_START_CHECKPOINT"

/-- Where a replay starts unless a variable says otherwise. -/
def defaultStart : Place := ⟨"mysql-bin.000001", 4⟩

def compare (settings : Settings) (a b : String) : Outcome String := do
  let p ← Position.parseJson a
  let q ← Position.parseJson b
  let comparison ← settings.comparison
  let order ← comparison.compare p q
  pure order.text

def normalizeGtid (set : String) : Outcome String := do
  let g ← GtidSet.parse set
  pure g.text

def startCursor (settings : Settings) : Option String → Outcome Cursor
  | none => .ok (.new settings defaultStart)
  | some raw => do
    let p ← Position.parseJson raw
    Cursor.restore settings p.toCheckpoint

/-- Takes note of the notification in a line; blank lines do not count. -/
def replayLine (c : Cursor) (line : List Char) : Outcome Cursor :=
  if (Text.trim line).isEmpty then .ok c
  else do
    let n ← Notification.parseJson (String.ofList line)
    c.replay [n]

def replay (settings : Settings) (start : Option String) (input : String) : Outcome String := do
  let c ← startCursor settings start
  let c ← (Text.split '\n' input.toList).foldlM replayLine c
  pure c.position.toJson.text

def reply : Outcome String → Reply
  | .ok output => ⟨0, output ++ "\n", ""⟩
  | .error e => ⟨1, "", e.message ++ "\n"⟩

/-- Runs the command that the words name. The settings must be sound even for a command that is
not known. -/
def run (words : List String) (lookup : String → Option String) (input : String) : Reply :=
  match Settings.ofVariables lookup with
  | .error e => reply (.error e)
  | .ok settings =>
    match words with
    | ["compare", a, b] => reply (compare settings a b)
    | ["normalize-gtid", set] => reply (normalizeGtid set)
    | "replay" :: _ => reply (replay settings (lookup startVariable) input)
    | _ => ⟨2, "", usage⟩

end BinlogCursor.Command
