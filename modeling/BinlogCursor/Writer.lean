/-
The writer that stores the published position from time to time. It stores at
ticks and once more when it is stopped, each time only what differs from what it
stored last; a store that fails ends it.
-/
import BinlogCursor.Board
import BinlogCursor.Store

namespace BinlogCursor

/-- What a store answers to its calls, counted from 1. -/
abbrev StoreAnswers := Nat → Outcome Unit

/-- A writer at work, with the board it reads from and the store it writes to. -/
structure Writer where
  board : Board
  store : Store
  /-- The calls of the store so far. -/
  calls : Nat
  lastStored : Option Checkpoint
  failure : Option Fault

namespace Writer

def new (board : Board) : Writer where
  board
  store := .empty
  calls := 0
  lastStored := none
  failure := none

def publish (w : Writer) (p : Position) : Writer :=
  { w with board := w.board.post p }

/-- Stores the published position, unless that is what was stored last. -/
def storeChange (w : Writer) (answers : StoreAnswers) : Writer :=
  let current := w.board.checkpoint
  if w.lastStored = some current then w
  else
    match answers (w.calls + 1) with
    | .ok () =>
      { w with
        store := w.store.append current
        calls := w.calls + 1
        lastStored := some current }
    | .error e => { w with calls := w.calls + 1, failure := some e }

/-- A tick of the clock; a writer that has ended does nothing. -/
def tick (w : Writer) (answers : StoreAnswers) : Writer :=
  if w.failure.isSome then w else w.storeChange answers

/-- The end of the writer's work: a last write, and whether all went well. -/
def stop (w : Writer) (answers : StoreAnswers) : Writer × Outcome Unit :=
  let w := w.tick answers
  (w, match w.failure with
    | some e => .error e
    | none => .ok ())

end Writer

end BinlogCursor
