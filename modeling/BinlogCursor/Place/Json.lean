/-
Places in JSON: the file under `filename`, the offset under `position`.
-/
import BinlogCursor.Json.Decoder
import BinlogCursor.Json.Value
import BinlogCursor.Place

namespace BinlogCursor.Place

def ofNode? : Json.Decoder Place := fun n => do
  let f ← Json.Fields.decode ["filename", "position"] n
  let file ← f.required "filename" Json.Decoder.string
  let offset ← f.required "position" Json.Decoder.word64
  pure ⟨file, offset⟩

def toJson (c : Place) : Json :=
  .ofMembers [("filename", .string c.file), ("position", .natural c.offset.toNat)]

end BinlogCursor.Place
