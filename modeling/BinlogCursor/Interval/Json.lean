/-
Intervals in JSON: their bounds under `start` and `end`, in whatever order they are.
-/
import BinlogCursor.Interval
import BinlogCursor.Json.Decoder
import BinlogCursor.Json.Value

namespace BinlogCursor.Interval

/-- Reads two bounds, without asking for their order. -/
def ofNode? : Json.Decoder Interval := fun n => do
  let f ← Json.Fields.decode ["start", "end"] n
  let first ← f.required "start" Json.Decoder.word64
  let last ← f.required "end" Json.Decoder.word64
  pure ⟨first, last⟩

def toJson (i : Interval) : Json :=
  .ofMembers [("start", .natural i.first.toNat), ("end", .natural i.last.toNat)]

end BinlogCursor.Interval
