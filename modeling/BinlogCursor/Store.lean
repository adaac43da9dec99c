/-
A store of checkpoints that keeps all it is given, in order.
-/
import BinlogCursor.Position.Checkpoint

namespace BinlogCursor

structure Store where
  history : List Checkpoint

namespace Store

def empty : Store :=
  ⟨[]⟩

def append (s : Store) (c : Checkpoint) : Store :=
  ⟨s.history ++ [c]⟩

def latest? (s : Store) : Option Checkpoint :=
  s.history.getLast?

end Store

end BinlogCursor
