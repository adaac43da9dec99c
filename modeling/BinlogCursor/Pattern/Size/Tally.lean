/-
Counting the states of an automaton while it is built. States are numbered in the
order in which they come; besides the room for each state, there is room for the
transitions of those that have several and for the branches where ways part.
-/
import BinlogCursor.Pattern.Size.Memo

namespace BinlogCursor.Pattern

/-- What has been built: the number of states, the room for transitions and branches, and the states
that may be used again. -/
structure Tally where
  states : Nat
  room : Nat
  memo : Memo

namespace Tally

def stateRoom : Nat := 32

def transitionRoom : Nat := 8

def branchRoom : Nat := 4

def start (remembered : Nat) : Tally :=
  ⟨0, 0, .empty remembered⟩

def size (t : Tally) : Nat :=
  t.states * stateRoom + t.room

/-- Some states that need no room of their own. -/
def addStates (t : Tally) (n : Nat) : Tally :=
  { t with states := t.states + n }

/-- A state with some transitions. -/
def addSparse (t : Tally) (transitions : Nat) : Tally :=
  { t with states := t.states + 1, room := t.room + transitions * transitionRoom }

def addUnion (t : Tally) (branches : Nat) : Tally :=
  { t with states := t.states + 1, room := t.room + branches * branchRoom }

/-- The state for a key, which is built by a step unless it is remembered, and its number. -/
def reuse (t : Tally) (key : Memo.Key) (build : Tally → Tally) : Nat × Tally :=
  match t.memo.find? key with
  | some n => (n, t)
  | none =>
    let t' := build t
    (t.states, { t' with memo := t'.memo.insert key t.states })

end Tally

end BinlogCursor.Pattern
