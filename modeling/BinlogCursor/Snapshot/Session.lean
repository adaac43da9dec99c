/-
Blocking snapshots under way. Streaming stops at a position, and goes on from
that same position once the snapshot is done, provided that what has been
recorded by then does not lie before it.
-/
import BinlogCursor.Comparison
import BinlogCursor.Snapshot.Request

namespace BinlogCursor.Snapshot

/-- A snapshot under way, and the position at which streaming stopped. -/
structure Session [Pattern.Engine] where
  request : Request
  suspendedAt : Position

namespace Session

def suspend [Pattern.Engine] (request : Request) (position : Position) : Session :=
  ⟨request, position⟩

/-- The position from which streaming goes on, given the one that is recorded now. -/
def resume [Pattern.Engine] (s : Session) (comparison : Comparison) (current : Position) :
    Outcome Position := do
  match ← comparison.compare s.suspendedAt current with
  | .before => pure s.suspendedAt
  | .same => pure s.suspendedAt
  | .after => .error (.signal (.behindSuspension current.text s.suspendedAt.text))
  | .incomparable => .error (.signal (.apartFromSuspension current.text s.suspendedAt.text))

end Session

end BinlogCursor.Snapshot
