/-
Notifications in JSON: an object whose member `op` tells their kind, or an array
that begins with the kind and goes on with the fields in their order.
-/
import BinlogCursor.Fault
import BinlogCursor.Json.Decoder
import BinlogCursor.Json.Node.Reader
import BinlogCursor.Json.Value
import BinlogCursor.Notification

namespace BinlogCursor.Notification

open Json (Node Decoder Fields)

/-- The member that tells the kind. -/
def kindKey : String := "op"

/-- The node of the kind, and the node of the fields. The kind must be there once. -/
def splitKind : Node → Option (Node × Node)
  | .object members =>
    match members.partition (·.1 == some kindKey) with
    | ([(_, kind)], rest) => some (kind, .object rest)
    | _ => none
  | .array (kind :: rest) => some (kind, .array rest)
  | _ => none

/-- A kind that has no fields: the members of an object do not count, and an array must be empty. -/
def withoutFields (n : Notification) : Node → Option Notification
  | .array (_ :: _) => none
  | _ => some n

def ofFields? (kind : String) (fields : Node) : Option Notification :=
  match kind with
  | "start_point" => do
    let f ← Fields.decode ["file", "position"] fields
    let file ← f.required "file" Decoder.string
    let offset ← f.required "position" Decoder.word64
    pure (.jump file offset)
  | "event" => do
    let f ← Fields.decode ["file", "offset", "size"] fields
    let file ← f.required "file" Decoder.string
    let offset ← f.required "offset" Decoder.word64
    let size ← f.required "size" Decoder.word64
    pure (.event file offset size)
  | "begin" => withoutFields .begin fields
  | "row" => do
    let f ← Fields.decode ["index", "total"] fields
    let index ← f.required "index" Decoder.word32
    let total ← f.required "total" Decoder.word32
    pure (.row index total)
  | "complete_event" => withoutFields .finish fields
  | "commit" => withoutFields .commit fields
  | "gtid" => do
    let f ← Fields.decode ["gtid", "gtid_set"] fields
    let gtid ← f.required "gtid" Decoder.string
    let gtidSet ← f.required "gtid_set" Decoder.string
    pure (.gtid gtid gtidSet)
  | _ => none

/-- Reads a notification. All of the node must be readable, even what does not belong to it. -/
def ofNode? : Decoder Notification := fun n => do
  if n.readable then
    let (kind, fields) ← splitKind n
    let kind ← Decoder.string kind
    ofFields? kind fields
  else none

def toJson : Notification → Json
  | .jump file offset =>
    .ofMembers
      [(kindKey, .string "start_point"), ("file", .string file), ("position", .natural offset.toNat)]
  | .event file offset size =>
    .ofMembers
      [(kindKey, .string "event"), ("file", .string file), ("offset", .natural offset.toNat),
        ("size", .natural size.toNat)]
  | .begin => .ofMembers [(kindKey, .string "begin")]
  | .row index total =>
    .ofMembers
      [(kindKey, .string "row"), ("index", .natural index.toNat), ("total", .natural total.toNat)]
  | .finish => .ofMembers [(kindKey, .string "complete_event")]
  | .commit => .ofMembers [(kindKey, .string "commit")]
  | .gtid id set =>
    .ofMembers [(kindKey, .string "gtid"), ("gtid", .string id), ("gtid_set", .string set)]

def parseJson (s : String) : Outcome Notification :=
  match (Json.Node.read? s).bind ofNode? with
  | some n => .ok n
  | none => .error .json

end BinlogCursor.Notification
