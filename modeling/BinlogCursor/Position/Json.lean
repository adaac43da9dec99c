/-
Positions in JSON: an object with the fields of a checkpoint. What is written
holds texts only; what is read may hold numbers and truth values as well, and
`null` for a field that is not there.
-/
import BinlogCursor.Json.Value
import BinlogCursor.Position.Checkpoint

namespace BinlogCursor.Position

def fieldText (key : String) : Json → Outcome (Option String)
  | .string s => .ok (some s)
  | .number n => .ok (some (String.ofList n.chars))
  | .bool true => .ok (some "true")
  | .bool false => .ok (some "false")
  | .null => .ok none
  | other => .error (.format (.compositeField key other.text))

def addMember (m : Checkpoint) (member : String × Json) : Outcome Checkpoint := do
  match ← fieldText member.1 member.2 with
  | some text => pure (m.insert member.1 text)
  | none => pure m

def checkpointOfJson : Json → Outcome Checkpoint
  | .object members => members.foldlM addMember .empty
  | _ => .error (.format .notAnObject)

def ofJson (j : Json) : Outcome Position := do
  let m ← checkpointOfJson j
  ofCheckpoint m

/-- The position as a JSON object of texts. -/
def toJson (p : Position) : Json :=
  .object (p.toCheckpoint.entries.map fun e => (e.1, .string e.2))

def parseJson (s : String) : Outcome Position :=
  match Json.parse? s with
  | some j => ofJson j
  | none => .error .json

end BinlogCursor.Position
