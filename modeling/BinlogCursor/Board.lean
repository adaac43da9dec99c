/-
The board at which a cursor posts its position for readers. A position is
replaced as a whole, so a reader never sees half of a change, and what it has
taken stays as it was.
-/
import BinlogCursor.Position.Checkpoint

namespace BinlogCursor

/-- Holds the position that was posted last. -/
structure Board where
  posted : Position
deriving DecidableEq

namespace Board

def post (_ : Board) (p : Position) : Board :=
  ⟨p⟩

def current (b : Board) : Position :=
  b.posted

def checkpoint (b : Board) : Checkpoint :=
  b.current.toCheckpoint

end Board

end BinlogCursor
