/-
The cursor: it follows the events of a log and keeps the position from which
reading has to resume. Outside of a transaction that is the event at hand; within
one the place stays at its begin, and counters say what is done of it. A
cursor that was restored in the middle of a transaction publishes the counters
it was restored with until reading has come as far again.
-/
import BinlogCursor.Board
import BinlogCursor.Notification
import BinlogCursor.Origin
import BinlogCursor.Settings

namespace BinlogCursor

inductive Phase
  | idle
  | inTransaction
deriving DecidableEq

def Phase.text : Phase → String
  | .idle => "Idle"
  | .inTransaction => "InTransaction"

/-- How far a transaction was done when its position was stored. -/
structure Progress where
  place : Place
  eventsDone : UInt32
  rowsDone : UInt32
deriving DecidableEq

/-- A position in the same transaction has not come as far yet. -/
def Progress.isBeyond (r : Progress) (p : Position) : Bool :=
  decide (p.place = r.place) &&
    (decide (p.eventsDone < r.eventsDone) ||
      (p.eventsDone == r.eventsDone && decide (p.row < r.rowsDone)))

/-- Follows a log. -/
structure Cursor where
  phase : Phase
  origin : Origin
  /-- From where reading would have to resume, by what has been read since the start. -/
  restart : Position
  published : Position
  eventSize : UInt64
  /-- What will have been executed once the transaction at hand is. -/
  announced : Option GtidSet
  /-- What the cursor was restored with, as long as it lives. -/
  restoredFrom : Option Progress
  /-- What the cursor was restored with, until reading has come as far. -/
  awaited : Option Progress
  board : Board
deriving DecidableEq

namespace Cursor

/-- A cursor that starts at some place. The server 0 is none. -/
def new (settings : Settings) (start : Place) : Cursor :=
  let origin := Origin.new settings.serverName settings.serverId
  let restart :=
    { Position.start start with
      serverId := if settings.serverId = 0 then none else some settings.serverId }
  { phase := .idle
    origin := { origin with file := start.file, offset := start.offset }
    restart
    published := restart
    eventSize := 0
    announced := none
    restoredFrom := none
    awaited := none
    board := ⟨restart⟩ }

def post (c : Cursor) (p : Position) : Cursor :=
  { c with published := p, board := c.board.post p }

/-- Publishes from where reading would have to resume, with the counters of the restored position
as long as that lies ahead. -/
def publish (c : Cursor) : Cursor :=
  match c.awaited with
  | none => c.post c.restart
  | some r =>
    if r.isBeyond c.restart then
      c.post { c.restart with eventsDone := r.eventsDone, row := r.rowsDone }
    else { c with awaited := none }.post c.restart

/-- What has to be skipped after a restart at a position, if anything has. -/
def progressOf (p : Position) : Option Progress :=
  if p.eventsDone = 0 ∧ p.row = 0 then none
  else some ⟨p.place, p.eventsDone, p.row⟩

/-- A cursor that takes up where a position was left. -/
def restoreAt (settings : Settings) (p : Position) : Cursor :=
  let c := new settings p.place
  publish
    { c with
      origin := { c.origin with snapshot := if p.duringSnapshot then .within else .outside }
      restoredFrom := progressOf p
      awaited := progressOf p
      restart := { p with serverId := p.serverId.or c.restart.serverId, row := 0, eventsDone := 0 } }

def restore (settings : Settings) (m : Checkpoint) : Outcome Cursor :=
  (Position.ofCheckpoint m).map (restoreAt settings)

def transactionOpen (c : Cursor) : Bool :=
  c.phase == .inTransaction

/-- From where reading has to resume. -/
def position (c : Cursor) : Position :=
  c.published

def checkpoint (c : Cursor) : Checkpoint :=
  c.published.toCheckpoint

/-- The events to skip of the transaction at which the cursor was restored. -/
def eventsAlreadyDone (c : Cursor) : UInt32 :=
  match c.restoredFrom with
  | some r => r.eventsDone
  | none => 0

/-- The rows to skip of the event behind those to skip. -/
def rowsAlreadyDone (c : Cursor) : UInt32 :=
  match c.restoredFrom with
  | some r => r.rowsDone
  | none => 0

/-- Reading has not yet come to where the cursor was restored. -/
def catchingUp (c : Cursor) : Bool :=
  c.awaited.isSome

def snapshotOpen (c : Cursor) : Bool :=
  c.restart.duringSnapshot

/-- Where the event behind the one at hand starts. -/
def nextPlace (c : Cursor) : Place :=
  ⟨c.origin.file, c.origin.offset + c.eventSize⟩

/-- Moves to a place outside of any event. -/
def moveTo (c : Cursor) (p : Place) : Cursor :=
  { c with restart := { c.restart with place := p, row := 0, eventsDone := 0 } }

/-- The transaction at hand is executed. -/
def takeAnnounced (c : Cursor) : Cursor :=
  match c.announced with
  | some g => { c with announced := none, restart := { c.restart with gtids := some g } }
  | none => c

/-- Reading goes on at a place in some file. -/
def jumpTo (c : Cursor) (file : String) (offset : UInt64) : Cursor :=
  let c := { c with origin := { c.origin with file, offset, row := 0 } }
  (c.moveTo ⟨file, offset⟩).publish

/-- An event starts. Within a transaction only what comes after it is remembered. -/
def enterEvent (c : Cursor) (file : String) (offset size : UInt64) : Cursor :=
  let c := { c with origin := { c.origin with file, offset, row := 0 }, eventSize := size }
  match c.phase with
  | .idle => (c.moveTo ⟨file, offset⟩).publish
  | .inTransaction => c

/-- The event at hand begins a transaction, whether or not one is open. -/
def openTransaction (c : Cursor) : Cursor :=
  let c := { c with phase := .inTransaction }
  (c.moveTo ⟨c.origin.file, c.origin.offset⟩).publish

/-- A row of the event at hand is read; after the last row all of them are done. -/
def readRow (c : Cursor) (index total : UInt32) : Cursor :=
  let done := if index.toNat + 1 < total.toNat then index + 1 else total
  publish
    { c with
      origin := { c.origin with row := index }
      restart := { c.restart with row := done } }

/-- The event at hand is done. One outside of a transaction is complete in itself. -/
def finishEvent (c : Cursor) : Cursor :=
  let c :=
    match c.phase with
    | .inTransaction =>
      { c with restart := { c.restart with eventsDone := c.restart.eventsDone + 1 } }
    | .idle =>
      takeAnnounced { c with restart := { c.restart with place := c.nextPlace } }
  publish { c with restart := { c.restart with row := 0 } }

/-- The event at hand ends the transaction. -/
def closeTransaction (c : Cursor) : Cursor :=
  let c := { c with phase := .idle }
  let c := (c.moveTo c.nextPlace).takeAnnounced
  publish { c with origin := { c.origin with query := none } }

/-- A transaction is announced: its identifier, and what will have been executed after it. The
identifier is noted even if the set cannot be read. -/
def announce (c : Cursor) (id set : String) : Cursor × Outcome Unit :=
  let c := { c with origin := { c.origin with gtid := some id } }
  match GtidSet.parseUnlessBlank (some set) with
  | .ok (some g) => ({ c with announced := some g }, .ok ())
  | .ok none => (c, .ok ())
  | .error e => (c, .error e)

/-- Sets what has been executed; a blank text changes nothing. -/
def setExecuted (c : Cursor) (set : String) : Cursor × Outcome Unit :=
  match GtidSet.parseUnlessBlank (some set) with
  | .ok (some g) => (publish { c with restart := { c.restart with gtids := some g } }, .ok ())
  | .ok none => (c, .ok ())
  | .error e => (c, .error e)

def enterSnapshot (c : Cursor) : Cursor :=
  publish
    { c with
      restart := { c.restart with duringSnapshot := true }
      origin := { c.origin with snapshot := .within } }

def markSnapshotEnd (c : Cursor) : Cursor :=
  { c with origin := { c.origin with snapshot := .last } }

def leaveSnapshot (c : Cursor) : Cursor :=
  publish
    { c with
      restart := { c.restart with duringSnapshot := false }
      origin := { c.origin with snapshot := .outside } }

/-- The seconds of an instant from 1970 on; before that there are none. -/
def secondsOf (time : Instant) : Option UInt64 :=
  if 0 ≤ time.seconds then Text.word64? time.seconds.toNat else none

def noteTime (c : Cursor) (time : Instant) : Cursor :=
  publish
    { c with
      origin := { c.origin with time := some time }
      restart := { c.restart with seconds := secondsOf time } }

def noteDatabase (c : Cursor) (database : String) : Cursor :=
  { c with origin := { c.origin with database := some database, table := none } }

def noteTable (c : Cursor) (database table : String) : Cursor :=
  { c with origin := { c.origin with database := some database, table := some table } }

def noteThread (c : Cursor) (thread : UInt64) : Cursor :=
  { c with origin := { c.origin with thread := some thread } }

def noteQuery (c : Cursor) (query : Option String) : Cursor :=
  { c with origin := { c.origin with query } }

/-- Takes note of what the reader tells. -/
def apply (c : Cursor) : Notification → Cursor × Outcome Unit
  | .jump file offset => (c.jumpTo file offset, .ok ())
  | .event file offset size => (c.enterEvent file offset size, .ok ())
  | .begin => (c.openTransaction, .ok ())
  | .row index total => (c.readRow index total, .ok ())
  | .finish => (c.finishEvent, .ok ())
  | .commit => (c.closeTransaction, .ok ())
  | .gtid id set => c.announce id set

end Cursor

inductive Operation
  | notify (n : Notification)
  | setExecuted (set : String)
  | enterSnapshot
  | markSnapshotEnd
  | leaveSnapshot
  | noteTime (time : Instant)
  | noteDatabase (database : String)
  | noteTable (database table : String)
  | noteThread (thread : UInt64)
  | noteQuery (query : Option String)
deriving DecidableEq

namespace Cursor

/-- Does one thing to a cursor; what fails may have changed it in part. -/
def perform (c : Cursor) : Operation → Cursor × Outcome Unit
  | .notify n => c.apply n
  | .setExecuted set => c.setExecuted set
  | .enterSnapshot => (c.enterSnapshot, .ok ())
  | .markSnapshotEnd => (c.markSnapshotEnd, .ok ())
  | .leaveSnapshot => (c.leaveSnapshot, .ok ())
  | .noteTime time => (c.noteTime time, .ok ())
  | .noteDatabase database => (c.noteDatabase database, .ok ())
  | .noteTable database table => (c.noteTable database table, .ok ())
  | .noteThread thread => (c.noteThread thread, .ok ())
  | .noteQuery query => (c.noteQuery query, .ok ())

/-- Does one thing after the other, going on after failures. -/
def run (c : Cursor) (ops : List Operation) : Cursor :=
  ops.foldl (fun c op => (c.perform op).1) c

/-- Takes note of one notification after the other, up to the first that fails. -/
def replay (c : Cursor) (notifications : List Notification) : Outcome Cursor :=
  notifications.foldlM (fun c n =>
    match c.apply n with
    | (c, .ok ()) => .ok c
    | (_, .error e) => .error e) c

end Cursor

end BinlogCursor
