/-
What holds of a cursor whatever is done to it.

`Coherent` is the invariant, kept by every operation (`Coherent.perform`) and so by any number of
them, in any order and whether or not they make sense one after the other. What readers see, how
long a cursor catches up and what it then publishes follow from it
(`consistent_after_operations`).
-/
import BinlogCursor.Cursor.Hall
import BinlogCursor.Proofs.Publishing

namespace BinlogCursor.Cursor

variable {settings : Settings} {restored : Option Progress} {server : Option UInt64}
variable {c c' : Cursor}

theorem catchingUp_eq_false_iff : c.catchingUp = false ↔ c.awaited = none := by
  rw [catchingUp, Option.isSome_eq_false_iff, Option.isNone_iff_eq_none]

/-! ## Any number of operations -/

theorem run_inv {I : Cursor → Prop} (step : ∀ c op, I c → I (c.perform op).1) (h : I c)
    (ops : List Operation) : I (c.run ops) := by
  induction ops generalizing c with
  | nil => exact h
  | cons op ops ih =>
    rw [run_cons]
    exact ih (step c op h)

/-! ## What operations leave alone -/

/-- What a cursor was restored with, its server, and that outside of a transaction no events are
counted. -/
structure Grounded (restored : Option Progress) (server : Option UInt64) (c : Cursor) : Prop where
  restoredFrom : c.restoredFrom = restored
  awaited : ∀ r, c.awaited = some r → restored = some r
  serverId : c.restart.serverId = server
  uncounted : c.phase = .idle → c.restart.eventsDone = 0

namespace Grounded

theorem publish (h : c.Grounded restored server) : c.publish.Grounded restored server where
  restoredFrom := (restoredFrom_publish c).trans h.restoredFrom
  awaited r hr := by
    rw [awaited_publish, Option.filter_eq_some_iff] at hr
    exact h.awaited r hr.1
  serverId := by
    rw [restart_publish]
    exact h.serverId
  uncounted hp := by
    rw [phase_publish] at hp
    rw [restart_publish]
    exact h.uncounted hp

theorem leaves (h : c.Grounded restored server) (hl : c.Leaves c') :
    c'.Grounded restored server where
  restoredFrom := hl.restoredFrom.trans h.restoredFrom
  awaited r hr := h.awaited r (hl.awaited ▸ hr)
  serverId := hl.serverId.trans h.serverId
  uncounted := hl.uncounted h.uncounted

theorem perform (h : c.Grounded restored server) (op : Operation) :
    (c.perform op).1.Grounded restored server := by
  rcases perform_cases c op with ⟨x, he, hx⟩ | ⟨-, -, -, hx⟩
  · rw [he]
    exact (h.leaves hx).publish
  · exact h.leaves hx

end Grounded

/-! ## The invariant -/

/-- What holds of a cursor at any time: besides, what is published is up to date, and it is what
stands on the board. -/
structure Coherent (restored : Option Progress) (server : Option UInt64) (c : Cursor) : Prop where
  grounded : c.Grounded restored server
  settled : c.Settled
  posted : c.board.posted = c.published

theorem Coherent.perform (h : c.Coherent restored server) (op : Operation) :
    (c.perform op).1.Coherent restored server := by
  refine ⟨h.grounded.perform op, h.settled.perform op, ?_⟩
  rcases perform_cases c op with ⟨x, he, -⟩ | ⟨-, hp, hb, -⟩
  · rw [he]
    exact posted_publish x
  · rw [hb, hp]
    exact h.posted

theorem Coherent.run (h : c.Coherent restored server) (ops : List Operation) :
    (c.run ops).Coherent restored server :=
  run_inv (fun _ op hc => hc.perform op) h ops

namespace Coherent

/-- While progress is awaited, the published position is that of the progress. -/
theorem position_of_awaited (h : c.Coherent restored server) {r : Progress}
    (hr : c.awaited = some r) :
    c.position.place = r.place ∧ c.position.eventsDone = r.eventsDone ∧
      c.position.row = r.rowsDone := by
  have hplace := (Progress.isBeyond_iff.1 (h.settled.beyond r hr)).1
  rw [position, h.settled.published, hr]
  exact ⟨hplace, rfl, rfl⟩

/-- What is published stands on the board. -/
theorem board_eq (h : c.Coherent restored server) :
    c.board.current = c.position ∧ c.board.checkpoint = c.checkpoint := by
  have hb : c.board.current = c.position := h.posted
  exact ⟨hb, congrArg Position.toCheckpoint hb⟩

/-- When none is awaited, the restart position is published. -/
theorem position_of_caughtUp (h : c.Coherent restored server) (hr : c.awaited = none) :
    c.position = c.restart := by
  rw [position, h.settled.published, hr]
  rfl

end Coherent

/-- What is not awaited is never awaited again. -/
theorem Settled.awaited_run (h : c.Settled) (hr : c.awaited = none) (ops : List Operation) :
    (c.run ops).awaited = none := by
  have hall : (c.run ops).Settled ∧ (c.run ops).awaited = none := by
    refine run_inv (I := fun c => c.Settled ∧ c.awaited = none) (fun c op hc => ?_) ⟨h, hr⟩ ops
    refine ⟨hc.1.perform op, ?_⟩
    rw [awaited_perform hc.1 op, hc.2]
    rfl
  exact hall.2

/-! ## Cursors as they are made -/

/-- A cursor as it is made, at a place, or from a checkpoint, which says a position. -/
inductive Made (settings : Settings) : Cursor → Option Position → Prop
  | new (place : Place) : Made settings (.new settings place) none
  | restored {m : Checkpoint} {p : Position} {c : Cursor} (read : Position.ofCheckpoint m = .ok p)
      (made : restore settings m = .ok c) : Made settings c (some p)

/-- Where reading begins is all that matters. -/
theorem StartsAt.coherent {p : Position} (h : c.StartsAt p) (hb : c.board.posted = c.published) :
    c.Coherent (progressOf p) c.position.serverId where
  grounded :=
    { restoredFrom := h.restoredFrom
      awaited := fun r hr => h.awaited.symm.trans hr
      serverId := by rw [position, h.restart, h.published]
      uncounted := fun _ => by rw [h.restart] }
  settled := h.settled
  posted := hb

variable {p? : Option Position}

theorem Made.coherent (h : c.Made settings p?) :
    c.Coherent (p?.bind progressOf) c.position.serverId := by
  cases h with
  | new place => exact (startsAt_new settings place).coherent rfl
  | @restored m p c read made =>
    rw [restore, read] at made
    cases made
    exact (startsAt_restoreAt settings p).coherent (posted_publish _)

/-- Progress that is awaited is that of the position from which the cursor was restored. -/
theorem exists_of_bind_progressOf {r : Progress} (h : p?.bind progressOf = some r) :
    ∃ p, p? = some p ∧ r = ⟨p.place, p.eventsDone, p.row⟩ := by
  obtain ⟨p, hp, hr⟩ := Option.bind_eq_some_iff.1 h
  unfold progressOf at hr
  split at hr
  · cases hr
  · cases hr
    exact ⟨p, hp, rfl⟩

/-! ## Whatever is done -/

/-- What holds of a cursor that was once made as `made`, from a position if it was restored. -/
structure Consistent (made : Cursor) (p? : Option Position) (c : Cursor) : Prop where
  /-- What is published stands on the board. -/
  board : c.board.current = c.position ∧ c.board.checkpoint = c.checkpoint
  /-- A reader of the board sees just that, whenever it was taken: before anything was done to the
  cursor or in between, with whatever else has happened in the hall. -/
  readers : ∀ (h : Hall) (slot : Nat) (before later : List Hall.Act) (r : Board.Reader),
    h.cursors[slot]? = some made → (h.run before).reader? slot = some r →
    c = made.run ((before ++ later).filterMap (Hall.Act.operation? slot)) →
    r.position? (h.run (before ++ later)) = some c.position ∧
      r.checkpoint? (h.run (before ++ later)) = some c.checkpoint
  /-- While the cursor catches up, that is as far as the position from which it was restored. -/
  held : c.catchingUp = true → ∃ p, p? = some p ∧ c.position.place = p.place ∧
    c.position.eventsDone = p.eventsDone ∧ c.position.row = p.row
  /-- A cursor that was not restored does not catch up, and one that has caught up is done. -/
  caughtUp : p? = none ∨ c.catchingUp = false → ∀ more, (c.run more).catchingUp = false
  /-- No events are counted outside of transactions. -/
  idle : c.phase = .idle → c.catchingUp = false → c.position.eventsDone = 0
  /-- What has to be skipped does not change. -/
  alreadyDone : c.eventsAlreadyDone = p?.elim 0 (·.eventsDone) ∧
    c.rowsAlreadyDone = p?.elim 0 (·.row)
  snapshot : c.snapshotOpen = c.position.duringSnapshot
  server : c.position.serverId = made.position.serverId

theorem Coherent.consistent {made : Cursor}
    (h : c.Coherent (p?.bind progressOf) made.position.serverId) : Consistent made p? c where
  board := h.board_eq
  readers hall slot before later r hmade hr hc := by
    have hboard := hall.board?_run hmade hr later
    rw [← hc] at hboard
    rw [Board.Reader.position?, Board.Reader.checkpoint?, hboard]
    exact ⟨congrArg some h.board_eq.1, congrArg some h.board_eq.2⟩
  held hcatching := by
    obtain ⟨r, hr⟩ := Option.isSome_iff_exists.1 hcatching
    obtain ⟨p, hp, rfl⟩ := exists_of_bind_progressOf (h.grounded.awaited r hr)
    exact ⟨p, hp, h.position_of_awaited hr⟩
  caughtUp hdone more := by
    have hnone : c.awaited = none := by
      rcases hdone with rfl | hcaught
      · exact Option.eq_none_iff_forall_ne_some.2 fun r hr => by cases h.grounded.awaited r hr
      · exact catchingUp_eq_false_iff.1 hcaught
    exact catchingUp_eq_false_iff.2 (h.settled.awaited_run hnone more)
  idle hidle hcaught := by
    rw [h.position_of_caughtUp (catchingUp_eq_false_iff.1 hcaught)]
    exact h.grounded.uncounted hidle
  alreadyDone := by
    have hr := h.grounded.restoredFrom
    cases p? with
    | none => simp [eventsAlreadyDone, rowsAlreadyDone, hr]
    | some p => exact alreadyDone_of_restoredFrom hr
  snapshot := h.settled.resembles.duringSnapshot.symm
  server := h.settled.resembles.serverId.trans h.grounded.serverId

/-- **A cursor stays consistent.** However it was made, and whatever is done to it, in any order:
readers that were taken at any time see what it publishes now, while it catches up that is as far as
where it was left, it never catches up again, and what it counts, skips and says of the snapshot and
the server agrees with that. -/
theorem consistent_after_operations {made : Cursor} (h : made.Made settings p?)
    (ops : List Operation) : Consistent made p? (made.run ops) :=
  (h.coherent.run ops).consistent

/-- Where reading was left within a transaction, behind two rows of its second event. -/
def leftWithin : Position :=
  { Position.start ⟨"bin.000001", 120⟩ with eventsDone := 1, row := 2 }

/-- The end of a transaction that never began, and one that begins twice, do not change what readers
see of a cursor that catches up, be they taken before or in between. Once reading is behind the
transaction it never catches up again. -/
theorem consistent_after_second_begin :
    ∃ c, restore .default leftWithin.toCheckpoint = .ok c ∧
      (c.run [.notify .commit, .notify .begin, .notify .begin]).board.current.eventsDone = 1 ∧
      (∀ before later : List Operation,
        before ++ later = [.notify .commit, .notify .begin, .notify .begin] →
        ∀ r, ((Hall.mk [c]).run (before.map (.perform 0))).reader? 0 = some r →
          (r.position? ((Hall.mk [c]).run ((before ++ later).map (.perform 0)))).map
            Position.eventsDone = some 1) ∧
      ∀ more, ((c.run [.notify (.event "bin.000001" 120 40), .notify .commit]).run
        more).catchingUp = false := by
  have hread : Position.ofCheckpoint leftWithin.toCheckpoint = .ok leftWithin :=
    Position.ofCheckpoint_toCheckpoint ⟨fun g hg => (by cases hg), by decide⟩
  have hmade : restore .default leftWithin.toCheckpoint = .ok (restoreAt .default leftWithin) := by
    rw [restore, hread]
    rfl
  have hall := consistent_after_operations (.restored hread hmade)
  have hc := hall [.notify .commit, .notify .begin, .notify .begin]
  obtain ⟨p, hp, -, hdone, -⟩ := hc.held (by decide)
  cases hp
  refine ⟨_, hmade, (congrArg Position.eventsDone hc.board.1).trans hdone,
    fun before later hops r hr => ?_, ?_⟩
  · have hseen := hc.readers ⟨[_]⟩ 0 (before.map (.perform 0)) (later.map (.perform 0)) r rfl hr (by
      rw [← List.map_append, Hall.filterMap_operation?_map, hops])
    rw [List.map_append, hseen.1, Option.map_some, hdone]
    rfl
  · exact (hall [.notify (.event "bin.000001" 120 40), .notify .commit]).caughtUp
      (.inr (by decide))

end BinlogCursor.Cursor
