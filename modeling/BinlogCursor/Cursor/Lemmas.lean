/-
What publishing and running do to the parts of a cursor.
Main statements: publishing puts up what it publishes (`posted_publish`) and leaves
all else as it is, but for what is awaited; operations that are done one after the
other may be parted anywhere (`run_append`).
-/
import BinlogCursor.Cursor

namespace BinlogCursor.Cursor

@[simp] theorem posted_publish (c : Cursor) : c.publish.board.posted = c.publish.published := by
  unfold publish
  split
  · rfl
  · split <;> rfl

@[simp] theorem restart_publish (c : Cursor) : c.publish.restart = c.restart := by
  unfold publish
  split
  · rfl
  · split <;> rfl

@[simp] theorem origin_publish (c : Cursor) : c.publish.origin = c.origin := by
  unfold publish
  split
  · rfl
  · split <;> rfl

@[simp] theorem phase_publish (c : Cursor) : c.publish.phase = c.phase := by
  unfold publish
  split
  · rfl
  · split <;> rfl

@[simp] theorem eventSize_publish (c : Cursor) : c.publish.eventSize = c.eventSize := by
  unfold publish
  split
  · rfl
  · split <;> rfl

@[simp] theorem announced_publish (c : Cursor) : c.publish.announced = c.announced := by
  unfold publish
  split
  · rfl
  · split <;> rfl

@[simp] theorem restoredFrom_publish (c : Cursor) :
    c.publish.restoredFrom = c.restoredFrom := by
  unfold publish
  split
  · rfl
  · split <;> rfl

@[simp] theorem run_nil (c : Cursor) : c.run [] = c := rfl

@[simp] theorem run_cons (c : Cursor) (op : Operation) (ops : List Operation) :
    c.run (op :: ops) = (c.perform op).1.run ops := rfl

theorem run_append (c : Cursor) (ops more : List Operation) :
    c.run (ops ++ more) = (c.run ops).run more :=
  List.foldl_append

end BinlogCursor.Cursor
