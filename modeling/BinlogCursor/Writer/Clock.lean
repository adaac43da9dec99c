/-
When a writer ticks: once when its clock starts, and then whenever the clock
reaches a multiple of its interval.
-/
import BinlogCursor.Writer

namespace BinlogCursor.Writer

/-- A clock, in milliseconds from its start. -/
structure Clock where
  interval : Nat
  now : Nat
  started : Bool
deriving DecidableEq

namespace Clock

def new (interval : Nat) : Clock :=
  ⟨interval, 0, false⟩

/-- The ticks that fall due while the clock moves on. -/
def due (c : Clock) (milliseconds : Nat) : Nat :=
  (if c.started then 0 else 1) + ((c.now + milliseconds) / c.interval - c.now / c.interval)

def advance (c : Clock) (milliseconds : Nat) : Clock :=
  { c with now := c.now + milliseconds, started := true }

end Clock

/-- Serves the ticks that are due. Nothing is published between them, so that those behind the
first find nothing to write. -/
def serve (w : Writer) (answers : StoreAnswers) (due : Nat) : Writer :=
  if due = 0 then w else w.tick answers

end BinlogCursor.Writer
