/-
Sources in JSON, in two forms: the record that is attached to a row, and the
plain record of all fields, which can be read back.
-/
import BinlogCursor.Json.Decoder
import BinlogCursor.Json.Value
import BinlogCursor.Origin

namespace BinlogCursor

namespace SnapshotMark

def ofNode? : Json.Decoder SnapshotMark := fun n => do
  match ← Json.Decoder.choice n with
  | "true" => some .within
  | "last" => some .last
  | "false" => some .outside
  | _ => none

end SnapshotMark

def Instant.ofNode? : Json.Decoder Instant := fun n => do
  let s ← Json.Decoder.string n
  Instant.parse? s

namespace Origin

/-- The version of the records that are attached to rows. -/
def recordVersion : String := "0.1.0"

def toJson (s : Origin) : Json :=
  .ofMembers
    [("version", .string recordVersion),
      ("connector", .string "mysql"),
      ("name", .string s.name),
      ("ts_ms", .number (.integer s.milliseconds)),
      ("snapshot", .string s.snapshot.text),
      ("db", .string (s.database.getD "")),
      ("table", .optional .string s.table),
      ("server_id", .natural s.serverId.toNat),
      ("gtid", .optional .string s.gtid),
      ("file", .string s.file),
      ("pos", .natural s.offset.toNat),
      ("row", .natural s.row.toNat),
      ("thread", .optional (fun t => .natural t.toNat) s.thread),
      ("query", .optional .string s.query)]

def fieldNames : List String :=
  ["name", "server_id", "source_time", "snapshot", "database", "table", "gtid",
    "binlog_filename", "binlog_position", "row", "thread_id", "query"]

def ofNode? : Json.Decoder Origin := fun n => do
  let f ← Json.Fields.decode fieldNames n
  let name ← f.required "name" Json.Decoder.string
  let serverId ← f.required "server_id" Json.Decoder.word64
  let time ← f.optional "source_time" Instant.ofNode?
  let snapshot ← f.required "snapshot" SnapshotMark.ofNode?
  let database ← f.optional "database" Json.Decoder.string
  let table ← f.optional "table" Json.Decoder.string
  let gtid ← f.optional "gtid" Json.Decoder.string
  let file ← f.required "binlog_filename" Json.Decoder.string
  let offset ← f.required "binlog_position" Json.Decoder.word64
  let row ← f.required "row" Json.Decoder.word32
  let thread ← f.optional "thread_id" Json.Decoder.word64
  let query ← f.optional "query" Json.Decoder.string
  pure { name, serverId, time, snapshot, database, table, gtid, file, offset, row, thread, query }

def toRecord (s : Origin) : Json :=
  .ofMembers
    [("name", .string s.name),
      ("server_id", .natural s.serverId.toNat),
      ("source_time", .optional (fun t => .string t.text) s.time),
      ("snapshot", .string s.snapshot.text),
      ("database", .optional .string s.database),
      ("table", .optional .string s.table),
      ("gtid", .optional .string s.gtid),
      ("binlog_filename", .string s.file),
      ("binlog_position", .natural s.offset.toNat),
      ("row", .natural s.row.toNat),
      ("thread_id", .optional (fun t => .natural t.toNat) s.thread),
      ("query", .optional .string s.query)]

end Origin

end BinlogCursor
