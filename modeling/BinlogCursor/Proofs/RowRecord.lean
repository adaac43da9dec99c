/-
What is noted for rows, and from where reading resumes: neither has a say in the other.

The course of reading and the progress that is awaited make up all that a cursor publishes, answers
and holds back, so cursors that agree in these (`Steered`) are told apart by nothing else
(`Steered.answers_essence`, `Steered.shows_essence`). What readers of a board come to see one after
the other is what the board may show (`Hall.shows_iff`). Notes for rows touch neither
(`Steered.note`), nor does the identifier of an announcement (`Steered.perform`). The other way
round, what is noted for rows goes its own way (`origin_perform`), and what it tells of their
statement comes from few of the operations (`statement_foldl_after`).
-/
import BinlogCursor.Proofs.CursorCheckpoint
import BinlogCursor.Proofs.Course

namespace BinlogCursor

/-! ## What operations are for -/

namespace Operation

/-- The operation notes something for the rows, and that is all. -/
def isRowNote : Operation → Bool
  | .markSnapshotEnd | .noteDatabase _ | .noteTable _ _ | .noteThread _ | .noteQuery _ => true
  | _ => false

/-- The operation, under another identifier if it announces a transaction. -/
def withIdentifier (id : String) : Operation → Operation
  | .notify (.gtid _ set) => .notify (.gtid id set)
  | op => op

/-- Operations without the notes for rows, all transactions being announced under one identifier. -/
def essence (id : String) (ops : List Operation) : List Operation :=
  (ops.filter fun op => !op.isRowNote).map (withIdentifier id)

/-- The operation tells of the statement from which rows come, or that there is none any more. -/
def describes : Operation → Bool
  | .noteDatabase _ | .noteTable _ _ | .noteThread _ | .noteQuery _ | .notify .commit => true
  | _ => false

variable {id : String} {op : Operation} {ops : List Operation}

theorem essence_cons_of_isRowNote (h : op.isRowNote = true) :
    essence id (op :: ops) = essence id ops := by
  simp [essence, h]

theorem essence_cons (h : op.isRowNote = false) :
    essence id (op :: ops) = op.withIdentifier id :: essence id ops := by
  simp [essence, h]

theorem isRowNote_withIdentifier (id : String) (op : Operation) :
    (op.withIdentifier id).isRowNote = op.isRowNote := by
  cases op with
  | notify n => cases n <;> rfl
  | _ => rfl

end Operation

open Operation

namespace Course

variable {op : Operation}

theorem after_of_isRowNote (k : Course) (h : op.isRowNote = true) : k.after op = k := by
  cases op with
  | markSnapshotEnd => rfl
  | noteDatabase database => rfl
  | noteTable database table => rfl
  | noteThread thread => rfl
  | noteQuery query => rfl
  | _ => cases h

theorem after_withIdentifier (k : Course) (id : String) (op : Operation) :
    k.after (op.withIdentifier id) = k.after op := by
  cases op with
  | notify n => cases n <;> rfl
  | _ => rfl

end Course

/-- The statement from which rows come. -/
structure Statement where
  database : Option String
  table : Option String
  thread : Option UInt64
  query : Option String

namespace Origin

variable {s s' : Origin} {op : Operation}

/-- What is noted for rows behind an operation. -/
def after (s : Origin) : Operation → Origin
  | .notify (.jump file offset) | .notify (.event file offset _) =>
    { s with file, offset, row := 0 }
  | .notify (.row index _) => { s with row := index }
  | .notify .commit => { s with query := none }
  | .notify (.gtid id _) => { s with gtid := some id }
  | .enterSnapshot => { s with snapshot := .within }
  | .markSnapshotEnd => { s with snapshot := .last }
  | .leaveSnapshot => { s with snapshot := .outside }
  | .noteTime time => { s with time := some time }
  | .noteDatabase database => { s with database := some database, table := none }
  | .noteTable database table => { s with database := some database, table := some table }
  | .noteThread thread => { s with thread := some thread }
  | .noteQuery query => { s with query }
  | .notify .begin | .notify .finish | .setExecuted _ => s

/-- What an origin tells of the statement. -/
def statement (s : Origin) : Statement where
  database := s.database
  table := s.table
  thread := s.thread
  query := s.query

theorem statement_after_of_not_describes (s : Origin) (h : op.describes = false) :
    (s.after op).statement = s.statement := by
  cases op with
  | notify n =>
    cases n with
    | commit => cases h
    | _ => rfl
  | noteDatabase database => cases h
  | noteTable database table => cases h
  | noteThread thread => cases h
  | noteQuery query => cases h
  | _ => rfl

/-- What is told of the statement depends on what was told before, and on nothing else. -/
theorem statement_after_congr (h : s.statement = s'.statement) (op : Operation) :
    (s.after op).statement = (s'.after op).statement := by
  simp only [statement, Statement.mk.injEq] at h
  obtain ⟨hdatabase, htable, hthread, hquery⟩ := h
  cases op with
  | notify n => cases n <;> simp only [after, statement, hdatabase, htable, hthread, hquery]
  | _ => simp only [after, statement, hdatabase, htable, hthread, hquery]

/-- What does not tell of the statement might have been left out. -/
theorem statement_foldl_after (h : s.statement = s'.statement) (ops : List Operation) :
    (ops.foldl after s).statement = ((ops.filter describes).foldl after s').statement := by
  induction ops generalizing s s' with
  | nil => exact h
  | cons op ops ih =>
    cases hop : op.describes with
    | true =>
      rw [List.filter_cons_of_pos hop]
      exact ih (statement_after_congr h op)
    | false =>
      rw [List.filter_cons_of_neg (by simp [hop])]
      exact ih ((s.statement_after_of_not_describes hop).trans h)

end Origin

namespace Cursor

variable {settings : Settings} {restored : Option Progress} {server : Option UInt64}
variable {c d : Cursor} {op : Operation} {ops : List Operation} {now seen : List Position}

/-! ## What is noted for rows -/

/-- What an operation notes for rows has nothing to do with where reading stands. -/
theorem origin_perform (c : Cursor) (op : Operation) :
    (c.perform op).1.origin = c.origin.after op := by
  cases op with
  | notify n =>
    cases n with
    | jump file offset => exact origin_publish _
    | event file offset size =>
      obtain ⟨phase, _⟩ := c
      cases phase with
      | idle => exact origin_publish _
      | inTransaction => rfl
    | begin => exact origin_publish _
    | row index total => exact origin_publish _
    | finish =>
      obtain ⟨phase, _⟩ := c
      cases phase with
      | inTransaction => exact origin_publish _
      | idle =>
        simp only [perform, apply, finishEvent, takeAnnounced_eq, origin_publish]
        rfl
    | commit =>
      simp only [perform, apply, closeTransaction, takeAnnounced_eq, origin_publish]
      rfl
    | gtid id set =>
      simp only [perform, apply, announce]
      rcases GtidSet.parseUnlessBlank (some set) with e | _ | g <;> rfl
  | setExecuted set =>
    simp only [perform, setExecuted]
    rcases GtidSet.parseUnlessBlank (some set) with e | _ | g
    · rfl
    · rfl
    · exact origin_publish _
  | enterSnapshot => exact origin_publish _
  | markSnapshotEnd => rfl
  | leaveSnapshot => exact origin_publish _
  | noteTime time => exact origin_publish _
  | noteDatabase database => rfl
  | noteTable database table => rfl
  | noteThread thread => rfl
  | noteQuery query => rfl

theorem origin_run (c : Cursor) (ops : List Operation) :
    (c.run ops).origin = ops.foldl Origin.after c.origin := by
  induction ops generalizing c with
  | nil => rfl
  | cons op ops ih => rw [run_cons, ih, origin_perform, List.foldl_cons]

/-! ## What is seen from outside -/

/-- What the operations answer that are not notes for rows, each with the position that stands on
the board behind it. -/
def answers (c : Cursor) : List Operation → List (Outcome Unit × Position)
  | [] => []
  | op :: ops =>
    let behind := (c.perform op).1
    if op.isRowNote then behind.answers ops
    else ((c.perform op).2, behind.board.current) :: behind.answers ops

/-- The board may show these positions: before the operations, between any two of them and behind
the last, each time as often as it is looked at. -/
def Shows (c : Cursor) : List Operation → List Position → Prop
  | [], seen => ∀ p ∈ seen, p = c.board.current
  | op :: ops, seen => ∃ now later, seen = now ++ later ∧ (∀ p ∈ now, p = c.board.current) ∧
      (c.perform op).1.Shows ops later

theorem Shows.look (hnow : ∀ p ∈ now, p = c.board.current) (h : c.Shows ops seen) :
    c.Shows ops (now ++ seen) := by
  cases ops with
  | nil => exact List.forall_mem_append.2 ⟨hnow, h⟩
  | cons op ops =>
    obtain ⟨now', later, rfl, hnow', hlater⟩ := h
    exact ⟨now ++ now', later, (List.append_assoc ..).symm,
      List.forall_mem_append.2 ⟨hnow, hnow'⟩, hlater⟩

/-- Readers do not notice an operation that leaves the board as it is. -/
theorem shows_cons_iff (h : (c.perform op).1.board.current = c.board.current) :
    c.Shows (op :: ops) seen ↔ (c.perform op).1.Shows ops seen := by
  constructor
  · rintro ⟨now, later, rfl, hnow, hlater⟩
    exact hlater.look fun p hp => (hnow p hp).trans h.symm
  · exact fun hseen => ⟨[], seen, rfl, List.forall_mem_nil _, hseen⟩

end Cursor

/-- A reader may see these positions while something happens in the hall: it looks before that,
between any two acts and behind the last, each time as often as it likes. -/
def Hall.Shows (h : Hall) (r : Board.Reader) : List Hall.Act → List Position → Prop
  | [], seen => ∀ p ∈ seen, r.position? h = some p
  | act :: acts, seen => ∃ now later, seen = now ++ later ∧ (∀ p ∈ now, r.position? h = some p) ∧
      (h.after act).Shows r acts later

/-- A reader sees what the board shows that it looks at, whatever happens elsewhere in the hall. -/
theorem Hall.shows_iff {h : Hall} {r : Board.Reader} {c : Cursor} {acts : List Hall.Act}
    {seen : List Position} (hc : h.cursors[r.slot]? = some c) :
    h.Shows r acts seen ↔ c.Shows (acts.filterMap (Hall.Act.operation? r.slot)) seen := by
  have hlook : ∀ p, r.position? h = some p ↔ p = c.board.current := fun p => by
    rw [Board.Reader.position?, Board.Reader.board?, hc]
    exact Option.some_inj.trans eq_comm
  induction acts generalizing h c seen with
  | nil => simp only [Shows, List.filterMap_nil, Cursor.Shows, hlook]
  | cons act acts ih =>
    have hafter := cursor?_after hc act
    have hlater : ∀ later, (h.after act).Shows r acts later ↔
        (c.run (act.operation? r.slot).toList).Shows
          (acts.filterMap (Hall.Act.operation? r.slot)) later := fun later => by
      refine ih hafter fun p => ?_
      rw [Board.Reader.position?, Board.Reader.board?, hafter]
      exact Option.some_inj.trans eq_comm
    simp only [Shows, hlook, hlater, List.filterMap_cons]
    cases act.operation? r.slot with
    | some op => rfl
    | none =>
      -- The board stays as it is, so looks before the act are as good as looks behind it.
      constructor
      · rintro ⟨now, later, rfl, hnow, hlater⟩
        exact hlater.look hnow
      · exact fun hseen => ⟨[], seen, rfl, List.forall_mem_nil _, hseen⟩

namespace Cursor

variable {settings : Settings} {restored : Option Progress} {server : Option UInt64}
variable {c d : Cursor} {op : Operation} {ops : List Operation} {seen : List Position}

/-- Under another identifier an announcement succeeds or fails all the same. -/
theorem outcome_withIdentifier (c : Cursor) (id : String) (op : Operation) :
    (c.perform (op.withIdentifier id)).2 = (c.perform op).2 := by
  cases op with
  | notify n =>
    cases n with
    | gtid id' set =>
      simp only [perform, withIdentifier, apply, announce]
      rcases GtidSet.parseUnlessBlank (some set) with e | _ | g <;> rfl
    | _ => rfl
  | _ => rfl

/-! ## Cursors that are steered alike -/

/-- Two cursors whose reading has taken the same course, and that await the same progress. -/
structure Steered (restored : Option Progress) (server : Option UInt64) (c d : Cursor) : Prop where
  left : c.Coherent restored server
  right : d.Coherent restored server
  course : c.course = d.course
  awaited : c.awaited = d.awaited

namespace Steered

theorem refl (h : c.Coherent restored server) : Steered restored server c c :=
  ⟨h, h, rfl, rfl⟩

theorem board_eq (h : Steered restored server c d) : c.board.current = d.board.current := by
  have hrestart : c.restart = d.restart := congrArg Course.restart h.course
  rw [Board.current, Board.current, h.left.posted, h.right.posted, h.left.settled.published,
    h.right.settled.published, hrestart, h.awaited]

/-- A note for rows does not steer. -/
theorem note (h : Steered restored server c d) (hop : op.isRowNote = true) :
    Steered restored server (c.perform op).1 d := by
  have hcourse : (c.perform op).1.course = c.course :=
    (course_perform c op).trans (c.course.after_of_isRowNote hop)
  have hrestart : (c.perform op).1.restart = c.restart := congrArg Course.restart hcourse
  refine ⟨h.left.perform op, h.right, hcourse.trans h.course, ?_⟩
  -- Were the position published again, what is awaited would still lie ahead of it.
  rw [awaited_perform h.left.settled, hrestart, ← h.left.settled.awaited_eq]
  exact h.awaited

/-- Any other operation steers both alike, under whatever identifier it announces. -/
theorem perform (h : Steered restored server c d) (id : String) (op : Operation) :
    Steered restored server (c.perform op).1 (d.perform (op.withIdentifier id)).1 := by
  have hcourse : (c.perform op).1.course = (d.perform (op.withIdentifier id)).1.course := by
    rw [course_perform, course_perform, Course.after_withIdentifier, h.course]
  have hrestart : (c.perform op).1.restart = (d.perform (op.withIdentifier id)).1.restart :=
    congrArg Course.restart hcourse
  refine ⟨h.left.perform op, h.right.perform _, hcourse, ?_⟩
  rw [awaited_perform h.left.settled, awaited_perform h.right.settled, hrestart, h.awaited]

theorem run_essence (h : Steered restored server c d) (id : String) (ops : List Operation) :
    Steered restored server (c.run ops) (d.run (essence id ops)) := by
  induction ops generalizing c d with
  | nil => exact h
  | cons op ops ih =>
    rw [run_cons]
    cases hop : op.isRowNote with
    | true =>
      rw [essence_cons_of_isRowNote hop]
      exact ih (h.note hop)
    | false =>
      rw [essence_cons hop, run_cons]
      exact ih (h.perform id op)

theorem answers_essence (h : Steered restored server c d) (id : String) (ops : List Operation) :
    c.answers ops = d.answers (essence id ops) := by
  induction ops generalizing c d with
  | nil => rfl
  | cons op ops ih =>
    cases hop : op.isRowNote with
    | true =>
      rw [essence_cons_of_isRowNote hop, answers, if_pos hop]
      exact ih (h.note hop)
    | false =>
      have hop' : ¬ (op.withIdentifier id).isRowNote = true := by
        simp [isRowNote_withIdentifier, hop]
      have houtcome : (c.perform op).2 = (d.perform (op.withIdentifier id)).2 :=
        (outcome_perform c d op).trans (outcome_withIdentifier d id op).symm
      have hstep := h.perform id op
      rw [essence_cons hop, answers, answers, if_neg (by simp [hop]), if_neg hop', houtcome,
        hstep.board_eq, ih hstep]

theorem shows_essence (h : Steered restored server c d) (id : String) (ops : List Operation) :
    c.Shows ops seen ↔ d.Shows (essence id ops) seen := by
  induction ops generalizing c d seen with
  | nil => simp only [essence, List.filter_nil, List.map_nil, Shows, h.board_eq]
  | cons op ops ih =>
    cases hop : op.isRowNote with
    | true =>
      have hstep := h.note hop
      rw [essence_cons_of_isRowNote hop, shows_cons_iff (hstep.board_eq.trans h.board_eq.symm)]
      exact ih hstep
    | false => simp only [essence_cons hop, Shows, h.board_eq, ih (h.perform id op)]

end Steered

/-! ## Records and restarts -/

/-- Whether the ones or the others are done to a cursor, from outside it looks the same. -/
structure Indistinguishable (c : Cursor) (ops more : List Operation) : Prop where
  /-- What is no note for rows succeeds or fails alike, and leaves the same position published. -/
  answers : c.answers ops = c.answers more
  /-- The board may show the same positions, one after the other. -/
  shows : ∀ seen, c.Shows ops seen ↔ c.Shows more seen
  /-- So may its readers see the same positions, whenever they were taken and whatever else happens
  in the hall. -/
  readers : ∀ (h : Hall) (r : Board.Reader) (acts others : List Hall.Act),
    h.cursors[r.slot]? = some c →
    acts.filterMap (Hall.Act.operation? r.slot) = ops →
    others.filterMap (Hall.Act.operation? r.slot) = more →
    ∀ seen, h.Shows r acts seen ↔ h.Shows r others seen
  phase : (c.run ops).phase = (c.run more).phase
  catchingUp : (c.run ops).catchingUp = (c.run more).catchingUp
  snapshotOpen : (c.run ops).snapshotOpen = (c.run more).snapshotOpen

theorem Coherent.indistinguishable (h : c.Coherent restored server) {id : String}
    {more : List Operation} (hops : essence id ops = essence id more) :
    c.Indistinguishable ops more := by
  -- Both are compared with what is left of them.
  have hself := Steered.refl h
  have hrun := hself.run_essence id ops
  have hmore := hself.run_essence id more
  rw [← hops] at hmore
  have hcourse : (c.run ops).course = (c.run more).course := hrun.course.trans hmore.course.symm
  have hawaited : (c.run ops).awaited = (c.run more).awaited :=
    hrun.awaited.trans hmore.awaited.symm
  have hrestart : (c.run ops).restart = (c.run more).restart := congrArg Course.restart hcourse
  have hshows : ∀ seen, c.Shows ops seen ↔ c.Shows more seen := fun seen => by
    rw [hself.shows_essence id ops, hops, ← hself.shows_essence id more]
  refine ⟨?_, hshows, fun h r acts others hc hacts hothers seen => ?_,
    congrArg Course.phase hcourse, ?_, ?_⟩
  · rw [hself.answers_essence id ops, hops, ← hself.answers_essence id more]
  · rw [Hall.shows_iff hc, Hall.shows_iff hc, hacts, hothers, hshows]
  · rw [Cursor.catchingUp, hawaited, Cursor.catchingUp]
  · rw [Cursor.snapshotOpen, hrestart, Cursor.snapshotOpen]

/-- **What is noted for rows never steers.** Two sequences of operations that become the same when
the notes for rows are deleted, and when the transactions in them are announced under whatever one
identifier, are indistinguishable by what the cursor publishes, answers and is in the end. The other
way round, the database, the table, the thread and the query that rows tell of depend on nothing but
the notes of these and the ends of transactions: rows that are read, announcements, sets that are
executed, snapshots, times, begins of transactions and ends of events do not show in them, nor does
where reading stands. -/
theorem record_never_steers (h : c.Reachable settings) :
    (∀ id ops more, essence id ops = essence id more → c.Indistinguishable ops more) ∧
      ∀ ops more, ops.filter describes = more.filter describes →
        (c.run ops).origin.statement = (c.run more).origin.statement := by
  obtain ⟨made, p?, earlier, hmade, rfl⟩ := h
  refine ⟨fun id ops more hops => (hmade.coherent.run earlier).indistinguishable hops,
    fun ops more hops => ?_⟩
  rw [origin_run _ ops, origin_run _ more, Origin.statement_foldl_after rfl ops, hops,
    ← Origin.statement_foldl_after rfl more]

/-- A cursor that was restored within a transaction reads on with and without notes for rows, until
an announcement fails; and what it knows of a statement is the same with and without the rows. -/
theorem record_never_steers_while_catching_up :
    ∃ c : Cursor, c.Reachable .default ∧ c.catchingUp = true ∧
      c.Indistinguishable
        [.noteDatabase "shop", .notify (.event "bin.000001" 120 40), .notify .begin,
          .noteTable "shop" "orders", .notify (.gtid "a:6" "a:1-6"), .noteThread 7,
          .notify (.event "bin.000001" 160 40), .markSnapshotEnd, .notify .finish,
          .noteQuery (some "DELETE FROM orders"), .notify (.gtid "a:7" "a:1-")]
        [.notify (.event "bin.000001" 120 40), .notify .begin, .notify (.gtid "b:1" "a:1-6"),
          .notify (.event "bin.000001" 160 40), .notify .finish, .notify (.gtid "" "a:1-")] ∧
      (c.run [.noteTable "shop" "orders", .notify .begin, .notify (.row 0 3), .enterSnapshot,
          .setExecuted "a:1-5", .notify .finish, .noteQuery (some "DELETE FROM orders")]
        ).origin.statement = ⟨some "shop", some "orders", none, some "DELETE FROM orders"⟩ := by
  have hstorable : leftWithin.Storable := ⟨fun g hg => (by cases hg), by decide⟩
  have hreach := (Made.ofStorable .default hstorable).reachable
  obtain ⟨houtside, hstatement⟩ := record_never_steers hreach
  refine ⟨_, hreach, by decide, houtside "" _ _ (by decide), ?_⟩
  exact hstatement _ [.noteTable "shop" "orders", .noteQuery (some "DELETE FROM orders")]
    (by decide)

end Cursor

end BinlogCursor
