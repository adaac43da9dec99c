/-
The origin of a row: which server, database and table it comes from, and where
in the log it stands. Unlike a position it is never held back: it always tells
of the row that is being read.
-/
import BinlogCursor.Instant
import BinlogCursor.Text.Quoted

namespace BinlogCursor

/-- How a row stands to a snapshot. -/
inductive SnapshotMark
  /-- The row was read by a snapshot. -/
  | within
  /-- The row was the last of a snapshot. -/
  | last
  /-- The row was read from the log. -/
  | outside
deriving DecidableEq

def SnapshotMark.text : SnapshotMark → String
  | .within => "true"
  | .last => "last"
  | .outside => "false"

structure Origin where
  name : String
  serverId : UInt64
  time : Option Instant
  snapshot : SnapshotMark
  database : Option String
  table : Option String
  gtid : Option String
  file : String
  /-- Where the event of the row starts. -/
  offset : UInt64
  /-- The number of the row in its event, from 0. -/
  row : UInt32
  thread : Option UInt64
  query : Option String
deriving DecidableEq

namespace Origin

def new (name : String) (serverId : UInt64) : Origin where
  name
  serverId
  time := none
  snapshot := .outside
  database := none
  table := none
  gtid := none
  file := ""
  offset := 0
  row := 0
  thread := none
  query := none

/-- When the event happened, in milliseconds; 0 if that is not known. -/
def milliseconds (s : Origin) : Int :=
  match s.time with
  | some t => t.milliseconds
  | none => 0

def text (s : Origin) : String :=
  let gtid :=
    match s.gtid with
    | some g => "Some(" ++ Text.quoted g ++ ")"
    | none => "None"
  s!"SourceInfo \x7b server_id: {s.serverId}, file: {s.file}, pos: {s.offset}, row: {s.row}, gtid: {gtid} \x7d"

end Origin

end BinlogCursor
