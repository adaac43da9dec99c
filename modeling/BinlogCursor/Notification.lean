/-
What the reader of a log tells a cursor.
-/

namespace BinlogCursor

inductive Notification
  /-- Reading goes on at a place in some file. -/
  | jump (file : String) (offset : UInt64)
  /-- An event of some size starts here. -/
  | event (file : String) (offset size : UInt64)
  | begin
  /-- A row of the event, of so many. -/
  | row (index total : UInt32)
  | finish
  | commit
  /-- The identifier of a transaction, and what will have been executed after it. -/
  | gtid (id set : String)
deriving DecidableEq

end BinlogCursor
