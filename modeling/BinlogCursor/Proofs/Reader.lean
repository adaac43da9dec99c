/-
The reader of a log: what it calls on a cursor, event by event, and where it starts after a
restart; and the moments of a reading with any number of restarts.

`script` says what is called for events in order, `Log.reading` what is called once a cursor
was restored, `Step` how one moment follows another.
-/
import BinlogCursor.Cursor.Lemmas
import BinlogCursor.Proofs.Log
import Mathlib.Logic.Relation

namespace BinlogCursor

/-! ## Calls -/

/-- What a reader calls for the events of a log. -/
inductive Call
  | enter (e : LogEvent)
  | begin
  | row (e : LogEvent) (i : Nat)
  | finish
  | commit
deriving DecidableEq

namespace Call

/-- What a call tells the cursor. -/
def notification : Call → Notification
  | enter e => .event e.file e.offset e.size
  | begin => .begin
  | row e i => .row (.ofNat i) e.rows
  | finish => .finish
  | commit => .commit

/-- The row that a call passes on, if it does. -/
def rows : Call → List Row
  | row e i => [(e, i)]
  | _ => []

end Call

/-- The rows that calls pass on. -/
def rowsOf (calls : List Call) : List Row :=
  calls.flatMap Call.rows

@[simp] theorem rowsOf_nil : rowsOf [] = [] := rfl

@[simp] theorem rowsOf_cons (a : Call) (calls : List Call) :
    rowsOf (a :: calls) = a.rows ++ rowsOf calls := rfl

@[simp] theorem rowsOf_append (calls more : List Call) :
    rowsOf (calls ++ more) = rowsOf calls ++ rowsOf more :=
  List.flatMap_append

/-- The rows of an event from one of them on. -/
def rowCalls (e : LogEvent) (i : Nat) : List Call :=
  (List.range' i (e.rows.toNat - i)).map (Call.row e)

/-- What is called for entries in order. Of so many events of a transaction no row is passed on,
nor are so many rows of the next event that has any to pass on. -/
def script : (events row : Nat) → List LogEntry → List Call
  | _, _, [] => []
  | k, j, ⟨.single, e⟩ :: rest => .enter e :: (rowCalls e j ++ .finish :: script k 0 rest)
  | k, j, ⟨.opening, e⟩ :: rest => .enter e :: .begin :: script k j rest
  | k, j, ⟨.closing, e⟩ :: rest => .enter e :: .commit :: script k j rest
  | 0, j, ⟨.body, e⟩ :: rest => .enter e :: (rowCalls e j ++ .finish :: script 0 0 rest)
  | k + 1, j, ⟨.body, e⟩ :: rest => .enter e :: .finish :: script k j rest

/-- What is called on a cursor from the place on at which it stands, past what it says is done. -/
def Log.reading (log : Log) (c : Cursor) : List Call :=
  script c.eventsAlreadyDone.toNat c.rowsAlreadyDone.toNat (log.startingAt c.position.place)

/-- The rows of a log that calls never pass on. -/
def Log.missed (log : Log) (calls : List Call) : List Row :=
  log.rows.filter fun r => r ∉ rowsOf calls

namespace Cursor

/-- The cursor after a call. -/
def hear (c : Cursor) (a : Call) : Cursor :=
  (c.apply a.notification).1

/-- The cursor after some calls. -/
def follow (c : Cursor) (calls : List Call) : Cursor :=
  calls.foldl hear c

@[simp] theorem follow_nil (c : Cursor) : c.follow [] = c := rfl

@[simp] theorem follow_cons (c : Cursor) (a : Call) (calls : List Call) :
    c.follow (a :: calls) = (c.hear a).follow calls := rfl

theorem follow_append (c : Cursor) (calls more : List Call) :
    c.follow (calls ++ more) = (c.follow calls).follow more :=
  List.foldl_append

end Cursor

/-- A cursor with which a reading begins: a new one, or one restored from a checkpoint. -/
def Cursor.Begins (settings : Settings) (c : Cursor) : Prop :=
  (∃ place, c = .new settings place) ∨ ∃ m, Cursor.restore settings m = .ok c

/-! ## Histories -/

/-- Something is noted for the rows to come that tells nothing of how far reading has come. -/
def Operation.IsNote : Operation → Prop
  | .markSnapshotEnd | .noteTime _ | .noteDatabase _ | .noteTable _ _ | .noteThread _
  | .noteQuery _ => True
  | _ => False

/-- The set that a text announces, or the one known before if it announces none. -/
def announcedAfter (tip : Option GtidSet) (set : String) : Option GtidSet :=
  match GtidSet.parseUnlessBlank (some set) with
  | .ok (some g) => some g
  | _ => tip

/-- What was known before is part of what is known now. -/
def Grows (g h : Option GtidSet) : Prop :=
  ∀ s, g = some s → ∃ t, h = some t ∧ s.isWithin t = true

/-- A moment of a reading with its restarts: the cursor, what is going to be called on it, the
rows passed on so far by all its runs, and the last set that this run announced or began with. -/
structure Moment where
  cursor : Cursor
  ahead : List Call
  passed : List Row
  tip : Option GtidSet

/-- The moment at which a run of a reading begins. -/
def Moment.start (log : Log) (c : Cursor) (passed : List Row) : Moment :=
  ⟨c, log.reading c, passed, c.position.gtids⟩

/-- One moment follows another. Announced sets grow within a run, and reading only jumps between
items, ahead of the next event and not behind it. -/
inductive Step (settings : Settings) (log : Log) : Moment → Moment → Prop
  | call {c a ahead passed tip} :
    Step settings log ⟨c, a :: ahead, passed, tip⟩ ⟨c.hear a, ahead, passed ++ a.rows, tip⟩
  | note {c ahead passed tip op} (h : op.IsNote) :
    Step settings log ⟨c, ahead, passed, tip⟩ ⟨(c.perform op).1, ahead, passed, tip⟩
  | announce {c ahead passed tip id set} (h : Grows tip (announcedAfter tip set)) :
    Step settings log ⟨c, ahead, passed, tip⟩
      ⟨(c.announce id set).1, ahead, passed, announcedAfter tip set⟩
  | jump {c e ahead passed tip offset} (idle : c.phase = .idle)
    (onward : c.position.place.upTo ⟨e.file, offset⟩ = true) (short : offset ≤ e.offset) :
    Step settings log ⟨c, .enter e :: ahead, passed, tip⟩
      ⟨c.jumpTo e.file offset, .enter e :: ahead, passed, tip⟩
  | restart {c ahead passed tip c'} (h : Cursor.restore settings c.checkpoint = .ok c') :
    Step settings log ⟨c, ahead, passed, tip⟩ (.start log c' passed)

/-- What is called leads from moment to moment. -/
theorem reaches_follow {settings : Settings} {log : Log} (calls : List Call) {c : Cursor}
    {more : List Call} {passed : List Row} {tip : Option GtidSet} :
    Relation.ReflTransGen (Step settings log) ⟨c, calls ++ more, passed, tip⟩
      ⟨c.follow calls, more, passed ++ rowsOf calls, tip⟩ := by
  induction calls generalizing c passed with
  | nil =>
    rw [rowsOf_nil, List.append_nil]
    exact .refl
  | cons a calls ih =>
    rw [rowsOf_cons, ← List.append_assoc]
    exact .head .call ih

/-! ## A reading -/

/-- A cursor that begins to read the log in two files. -/
def twoFilesStart : Cursor :=
  .new .default ⟨"bin.000009", 4⟩

/-- Its calls up to the first row of the second event within the transaction. -/
def twoFilesBefore : List Call :=
  (script 0 0 Log.twoFiles.entries).take 12

/-- The calls behind that. -/
def twoFilesAfter : List Call :=
  (script 0 0 Log.twoFiles.entries).drop 12

theorem reading_twoFiles :
    Log.twoFiles.reading twoFilesStart = twoFilesBefore ++ twoFilesAfter := by
  decide

theorem reaches_twoFiles :
    Relation.ReflTransGen (Step .default Log.twoFiles) (.start Log.twoFiles twoFilesStart [])
      ⟨twoFilesStart.follow twoFilesBefore, twoFilesAfter, rowsOf twoFilesBefore, none⟩ := by
  have h : Relation.ReflTransGen (Step .default Log.twoFiles)
      ⟨twoFilesStart, twoFilesBefore ++ twoFilesAfter, [], none⟩
      ⟨twoFilesStart.follow twoFilesBefore, twoFilesAfter, [] ++ rowsOf twoFilesBefore, none⟩ :=
    reaches_follow twoFilesBefore
  rw [← reading_twoFiles] at h
  exact h

end BinlogCursor
