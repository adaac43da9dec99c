/-
Checkpoints: positions as maps from field names to texts, the form in which they
are stored. Fields at their default are left out.
-/
import BinlogCursor.Position
import BinlogCursor.TextMap

namespace BinlogCursor

/-- A stored position: a text for each of its fields. -/
abbrev Checkpoint := TextMap String

namespace Checkpoint

def fileKey : String := "filename"

def offsetKey : String := "position"

def rowKey : String := "row"

def eventsKey : String := "events_to_skip"

def gtidsKey : String := "gtid_set"

def snapshotKey : String := "snapshot"

def serverKey : String := "server_id"

def secondsKey : String := "ts_sec"

def numberText (n : Nat) : String :=
  String.ofList (Text.digits n)

/-- The number in a field, blanks around it allowed, if the field is there. -/
def number? {α : Type} (m : Checkpoint) (key : String) (fit : Nat → Option α) :
    Outcome (Option α) :=
  match m.get? key with
  | none => .ok none
  | some raw =>
    match (Text.unsigned? (Text.trim raw.toList)).bind fit with
    | some n => .ok (some n)
    | none => .error (.format (.fieldNotNumber key raw))

/-- The truth value in a field, in letters of either case; a field that is not there is false. -/
def flag (m : Checkpoint) (key : String) : Outcome Bool :=
  match m.get? key with
  | none => .ok false
  | some raw =>
    let lower := String.ofList ((Text.trim raw.toList).map Char.toLower)
    if lower = "true" then .ok true
    else if lower = "false" then .ok false
    else .error (.format (.fieldNotBoolean key lower))

end Checkpoint

namespace Position

def toCheckpoint (p : Position) : Checkpoint :=
  (TextMap.empty : Checkpoint)
    |>.insert Checkpoint.fileKey p.place.file
    |>.insert Checkpoint.offsetKey (Checkpoint.numberText p.place.offset.toNat)
    |>.insertIf (p.row != 0) Checkpoint.rowKey (Checkpoint.numberText p.row.toNat)
    |>.insertIf (p.eventsDone != 0) Checkpoint.eventsKey
      (Checkpoint.numberText p.eventsDone.toNat)
    |>.insertSome Checkpoint.gtidsKey (p.gtids.map GtidSet.text)
    |>.insertIf p.duringSnapshot Checkpoint.snapshotKey "true"
    |>.insertSome Checkpoint.serverKey (p.serverId.map fun id => Checkpoint.numberText id.toNat)
    |>.insertSome Checkpoint.secondsKey (p.seconds.map fun s => Checkpoint.numberText s.toNat)

/-- The position that a checkpoint holds. File and offset must be there; the server 0 is none. -/
def ofCheckpoint (m : Checkpoint) : Outcome Position := do
  let file ←
    match m.get? Checkpoint.fileKey with
    | some file => .ok file
    | none => .error (.missingField Checkpoint.fileKey)
  let offset ←
    match ← m.number? Checkpoint.offsetKey Text.word64? with
    | some offset => .ok offset
    | none => .error (.missingField Checkpoint.offsetKey)
  let gtids ← GtidSet.parseUnlessBlank (m.get? Checkpoint.gtidsKey)
  let row ← m.number? Checkpoint.rowKey Text.word32?
  let events ← m.number? Checkpoint.eventsKey Text.word32?
  let duringSnapshot ← m.flag Checkpoint.snapshotKey
  let server ← m.number? Checkpoint.serverKey Text.word64?
  let seconds ← m.number? Checkpoint.secondsKey Text.word64?
  pure
    { place := ⟨file, offset⟩
      gtids
      row := row.getD 0
      eventsDone := events.getD 0
      duringSnapshot
      serverId := server.filter (· != 0)
      seconds }

end Position

end BinlogCursor
