/-
The course of reading: what a cursor has come to know of the log, apart from what it publishes and
what it notes for the rows.

`course_perform` says once what each operation does to the course, `course_run` what any number of
them do. The position of a cursor that does not catch up is that of its course
(`Settled.position_eq_course`), and whether an operation succeeds has nothing to do with the
cursor (`outcome_perform`).
-/
import BinlogCursor.Proofs.Operations

namespace BinlogCursor

/-- The set that a text names, if it can be read and is not blank. -/
def GtidSet.named? (set : String) : Option GtidSet :=
  (GtidSet.parseUnlessBlank (some set)).toOption.join

theorem GtidSet.named?_eq_some_iff {set : String} {g : GtidSet} :
    named? set = some g ↔ parseUnlessBlank (some set) = .ok (some g) := by
  unfold named?
  rcases parseUnlessBlank (some set) with e | _ | g' <;> simp [Except.toOption]

theorem GtidSet.named?_text {g : GtidSet} (h : g.Present) : named? g.text = some g :=
  named?_eq_some_iff.2 h.parseUnlessBlank_text

namespace Position

/-- The position moved to a place, with nothing done there. -/
def movedTo (p : Position) (q : Place) : Position :=
  { p with place := q, row := 0, eventsDone := 0 }

/-- The position with another set, if there is one. -/
def executing (p : Position) (g : Option GtidSet) : Position :=
  { p with gtids := g.or p.gtids }

end Position

/-- Where a cursor stands in the log, and from where reading would have to resume. -/
structure Course where
  phase : Phase
  /-- Where the event at hand starts, or where reading goes on. -/
  hand : Place
  size : UInt64
  restart : Position
  announced : Option GtidSet

namespace Course

/-- Where the event behind the one at hand starts. -/
def next (k : Course) : Place :=
  ⟨k.hand.file, k.hand.offset + k.size⟩

/-- The course behind an operation. -/
def after (k : Course) : Operation → Course
  | .notify (.jump file offset) =>
    { k with hand := ⟨file, offset⟩, restart := k.restart.movedTo ⟨file, offset⟩ }
  | .notify (.event file offset size) =>
    match k.phase with
    | .idle => { k with
        hand := ⟨file, offset⟩
        size
        restart := k.restart.movedTo ⟨file, offset⟩ }
    | .inTransaction => { k with hand := ⟨file, offset⟩, size }
  | .notify .begin => { k with phase := .inTransaction, restart := k.restart.movedTo k.hand }
  | .notify (.row index total) => { k with
      restart := { k.restart with
        row := if index.toNat + 1 < total.toNat then index + 1 else total } }
  | .notify .finish =>
    match k.phase with
    | .inTransaction => { k with
        restart := { k.restart with eventsDone := k.restart.eventsDone + 1, row := 0 } }
    | .idle => { k with
        announced := none
        restart := { k.restart.executing k.announced with place := k.next, row := 0 } }
  | .notify .commit => { k with
      phase := .idle
      announced := none
      restart := (k.restart.executing k.announced).movedTo k.next }
  | .notify (.gtid _ set) => { k with announced := (GtidSet.named? set).or k.announced }
  | .setExecuted set => { k with restart := k.restart.executing (GtidSet.named? set) }
  | .enterSnapshot => { k with restart := { k.restart with duringSnapshot := true } }
  | .leaveSnapshot => { k with restart := { k.restart with duringSnapshot := false } }
  | .noteTime time => { k with restart := { k.restart with seconds := Cursor.secondsOf time } }
  | .markSnapshotEnd | .noteDatabase _ | .noteTable _ _ | .noteThread _ | .noteQuery _ => k

/-- The course behind some operations. -/
def run (k : Course) (ops : List Operation) : Course :=
  ops.foldl after k

@[simp] theorem run_nil (k : Course) : k.run [] = k := rfl

@[simp] theorem run_cons (k : Course) (op : Operation) (ops : List Operation) :
    k.run (op :: ops) = (k.after op).run ops := rfl

theorem run_append (k : Course) (ops more : List Operation) :
    k.run (ops ++ more) = (k.run ops).run more :=
  List.foldl_append

theorem run_concat (k : Course) (ops : List Operation) (op : Operation) :
    k.run (ops ++ [op]) = (k.run ops).after op :=
  run_append k ops [op]

end Course

namespace Cursor

variable {c : Cursor} {restored : Option Progress} {server : Option UInt64}

/-- The course of a cursor's reading. -/
def course (c : Cursor) : Course where
  phase := c.phase
  hand := ⟨c.origin.file, c.origin.offset⟩
  size := c.eventSize
  restart := c.restart
  announced := c.announced

@[simp] theorem course_publish (c : Cursor) : c.publish.course = c.course := by
  simp only [course, phase_publish, origin_publish, eventSize_publish, restart_publish,
    announced_publish]

theorem course_announce (c : Cursor) (id set : String) :
    (c.announce id set).1.course =
      { c.course with announced := (GtidSet.named? set).or c.announced } := by
  simp only [announce, GtidSet.named?]
  rcases GtidSet.parseUnlessBlank (some set) with e | _ | g <;> rfl

theorem course_setExecuted (c : Cursor) (set : String) :
    (c.setExecuted set).1.course =
      { c.course with restart := c.restart.executing (GtidSet.named? set) } := by
  simp only [setExecuted, GtidSet.named?]
  rcases GtidSet.parseUnlessBlank (some set) with e | _ | g
  · rfl
  · rfl
  · exact course_publish _

/-- What an operation does to the course. -/
theorem course_perform (c : Cursor) (op : Operation) :
    (c.perform op).1.course = c.course.after op := by
  cases op with
  | notify n =>
    cases n with
    | jump file offset => exact course_publish _
    | event file offset size =>
      obtain ⟨phase, _⟩ := c
      cases phase with
      | idle => exact course_publish _
      | inTransaction => rfl
    | begin => exact course_publish _
    | row index total => exact course_publish _
    | finish =>
      obtain ⟨phase, _⟩ := c
      cases phase with
      | inTransaction => exact course_publish _
      | idle =>
        simp only [perform, apply, finishEvent, takeAnnounced_eq, course_publish]
        rfl
    | commit =>
      simp only [perform, apply, closeTransaction, takeAnnounced_eq, course_publish]
      rfl
    | gtid id set => exact course_announce c id set
  | setExecuted set => exact course_setExecuted c set
  | enterSnapshot => exact course_publish _
  | markSnapshotEnd => rfl
  | leaveSnapshot => exact course_publish _
  | noteTime time => exact course_publish _
  | noteDatabase database => rfl
  | noteTable database table => rfl
  | noteThread thread => rfl
  | noteQuery query => rfl

theorem course_run (c : Cursor) (ops : List Operation) :
    (c.run ops).course = c.course.run ops := by
  induction ops generalizing c with
  | nil => rfl
  | cons op ops ih => rw [run_cons, ih, course_perform, Course.run_cons]

/-- Whether an operation succeeds is the same for all cursors. -/
theorem outcome_perform (c c' : Cursor) (op : Operation) :
    (c.perform op).2 = (c'.perform op).2 := by
  cases op with
  | notify n =>
    cases n with
    | gtid id set =>
      simp only [perform, apply, announce]
      rcases GtidSet.parseUnlessBlank (some set) with e | _ | g <;> rfl
    | _ => rfl
  | setExecuted set =>
    simp only [perform, setExecuted]
    rcases GtidSet.parseUnlessBlank (some set) with e | _ | g <;> rfl
  | _ => rfl

/-! ## What is published -/

/-- Apart from the counters, a cursor publishes where its course resumes. -/
theorem Settled.place_eq_course (h : c.Settled) : c.position.place = c.course.restart.place := by
  rw [position, h.published]
  cases c.awaited <;> rfl

theorem Settled.gtids_eq_course (h : c.Settled) : c.position.gtids = c.course.restart.gtids :=
  h.resembles.gtids

/-- When it does not catch up, the counters are those of the course too. -/
theorem Settled.position_eq_course (h : c.Settled) (hcaught : c.catchingUp = false) :
    c.position = c.course.restart := by
  rw [position, h.published, catchingUp_eq_false_iff.1 hcaught]
  rfl

end Cursor

end BinlogCursor
