/-
The phase of a cursor in JSON: its name.
-/
import BinlogCursor.Cursor
import BinlogCursor.Json.Decoder
import BinlogCursor.Json.Value

namespace BinlogCursor.Phase

def ofNode? : Json.Decoder Phase := fun n => do
  match ← Json.Decoder.choice n with
  | "Idle" => some .idle
  | "InTransaction" => some .inTransaction
  | _ => none

def toJson (p : Phase) : Json :=
  .string p.text

end BinlogCursor.Phase
