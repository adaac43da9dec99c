/-
Scripts by their names: the characters that belong to a script, and those that
are used in it. Most characters are used in the script to which they belong; for
the others all scripts that use them are listed.
-/
import BinlogCursor.Text.Ranges.Coded
import BinlogCursor.Text.Table.Scripts

namespace BinlogCursor.Text.Script

def ofName? (name : String) : Option Nat :=
  Table.scriptNames.findIdx? (·.contains name)

def ranges (script : Nat) : Ranges :=
  .ofRuns (· == script) 0 (base36Numbers Table.scripts)

/-- The characters for which scripts are listed, if the list is as asked. -/
def shared (listed : List Nat → Bool) : Ranges :=
  .ofList ((Table.sharedCharacters.filter fun s => listed s.scripts).flatMap fun s =>
    Ranges.decode s.ranges)

def extension (script : Nat) : Ranges :=
  ((ranges script).diff (shared fun _ => true)).union (shared (·.contains script))

end BinlogCursor.Text.Script
