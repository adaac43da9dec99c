/-
Characters by their age: the edition of the standard in which they first
appeared.
-/
import BinlogCursor.Text.Ranges.Coded
import BinlogCursor.Text.Table.Ages

namespace BinlogCursor.Text.Edition

def ofName? (name : String) : Option Nat :=
  Table.editionNames.findIdx? (·.contains name)

def ranges (edition : Nat) : Ranges :=
  .ofRuns (· ≤ edition) 0 (base36Numbers Table.ages)

end BinlogCursor.Text.Edition
