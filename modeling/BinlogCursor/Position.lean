/-
Positions in the replication stream: where a reader that starts anew has to take
it up. Inside a transaction the place is that of its begin, and two
counters say how many of its events are done and how many rows of the next.
-/
import BinlogCursor.Gtid.Set
import BinlogCursor.Place

namespace BinlogCursor

/-- Where reading is to resume. -/
structure Position where
  place : Place
  gtids : Option GtidSet
  /-- Rows that are done of the event after those to skip. -/
  row : UInt32
  /-- Events that are done since the begin of the transaction. -/
  eventsDone : UInt32
  duringSnapshot : Bool
  serverId : Option UInt64
  /-- When the last event happened, in seconds. -/
  seconds : Option UInt64
deriving DecidableEq

namespace Position

/-- The position of some place in the log, outside of any transaction and snapshot. -/
def start (place : Place) : Position where
  place
  gtids := none
  row := 0
  eventsDone := 0
  duringSnapshot := false
  serverId := none
  seconds := none

def text (p : Position) : String :=
  let gtids :=
    match p.gtids with
    | some g => ", gtids: " ++ g.text
    | none => ""
  let snapshot := if p.duringSnapshot then ", snapshot" else ""
  p.place.text ++ s!" (events: {p.eventsDone}, row: {p.row}" ++ gtids ++ snapshot ++ ")"

end Position

end BinlogCursor
