/-
Open transactions: from the begin of a transaction to its end, a cursor publishes the place of the
begin, counts the events that are done, and holds back what is announced.

`Course.Inside` tell what operations within a transaction come to, one behind the other
(`inside_run`). `open_transaction_pins` reads from it what is published meanwhile and what the end
of the transaction publishes.
-/
import BinlogCursor.Proofs.Announcement
import BinlogCursor.Proofs.Restoring

namespace BinlogCursor

/-! ## What operations say -/

namespace Operation

/-- The operation neither begins nor ends a transaction, nor does reading go on elsewhere. -/
def StaysInside : Operation → Prop
  | .notify .begin | .notify .commit | .notify (.jump _ _) => False
  | _ => True

/-- The set that an operation sets as executed, if it can be read and is not blank. -/
def executed? : Operation → Option GtidSet
  | .setExecuted set => GtidSet.named? set
  | _ => none

/-- Where an event starts with an operation, and its size. -/
def event? : Operation → Option (Place × UInt64)
  | .notify (.event file offset size) => some (⟨file, offset⟩, size)
  | _ => none

/-- The last thing that some of the operations say. -/
def last? {α : Type} (tell : Operation → Option α) (ops : List Operation) : Option α :=
  (ops.filterMap tell).getLast?

theorem last?_append {α : Type} (tell : Operation → Option α) (ops more : List Operation) :
    last? tell (ops ++ more) = (last? tell more).or (last? tell ops) := by
  rw [last?, List.filterMap_append, List.getLast?_append]
  rfl

theorem last?_singleton {α : Type} (tell : Operation → Option α) (op : Operation) :
    last? tell [op] = tell op := by
  cases h : tell op <;> simp [last?, h]

end Operation

/-! ## Within a transaction -/

namespace Course

variable {k k' k'' : Course} {op : Operation} {ops more : List Operation}

/-- What operations within a transaction come to. -/
structure Inside (k : Course) (ops : List Operation) (k' : Course) : Prop where
  phase : k'.phase = .inTransaction
  place : k'.restart.place = k.restart.place
  counted : k'.restart.eventsDone =
    k.restart.eventsDone + .ofNat (ops.count (.notify .finish))
  gtids : k'.restart.gtids = (Operation.last? Operation.executed? ops).or k.restart.gtids
  event : (k'.hand, k'.size) = (Operation.last? Operation.event? ops).getD (k.hand, k.size)
  announced : k'.announced = (Operation.last? Operation.announced? ops).or k.announced

theorem inside_nil (hp : k.phase = .inTransaction) : k.Inside [] k :=
  ⟨hp, rfl, by simp, rfl, rfl, rfl⟩

theorem Inside.append (h : k.Inside ops k') (h' : k'.Inside more k'') :
    k.Inside (ops ++ more) k'' where
  phase := h'.phase
  place := h'.place.trans h.place
  counted := by
    rw [h'.counted, h.counted, List.count_append, UInt32.ofNat_add, UInt32.add_assoc]
  gtids := by
    rw [h'.gtids, h.gtids, Operation.last?_append, Option.or_assoc]
  event := by
    rw [h'.event, h.event, Operation.last?_append]
    cases Operation.last? Operation.event? more <;> rfl
  announced := by
    rw [h'.announced, h.announced, Operation.last?_append, Option.or_assoc]

/-- One operation that leaves the transaction open. -/
theorem inside_after (hp : k.phase = .inTransaction) (hop : op.StaysInside) :
    k.Inside [op] (k.after op) := by
  cases op with
  | notify n =>
    cases n with
    | jump file offset => exact hop.elim
    | begin => exact hop.elim
    | commit => exact hop.elim
    | event file offset size =>
      simp only [after, hp]
      exact ⟨rfl, rfl, by simp, rfl, rfl, rfl⟩
    | row index total => exact ⟨hp, rfl, by simp [after], rfl, rfl, rfl⟩
    | finish =>
      simp only [after, hp]
      exact ⟨rfl, rfl, rfl, rfl, rfl, rfl⟩
    | gtid id set =>
      refine ⟨hp, rfl, by simp [after], rfl, rfl, ?_⟩
      rw [Operation.last?_singleton]
      rfl
  | setExecuted set =>
    refine ⟨hp, rfl, by simp [after, Position.executing], ?_, rfl, rfl⟩
    rw [Operation.last?_singleton]
    rfl
  | _ => exact ⟨hp, rfl, by simp [after], rfl, rfl, rfl⟩

theorem inside_run (hp : k.phase = .inTransaction) (hops : ∀ op ∈ ops, op.StaysInside) :
    k.Inside ops (k.run ops) := by
  induction ops generalizing k with
  | nil => exact inside_nil hp
  | cons op ops ih =>
    have hop := inside_after hp (hops op (by simp))
    exact hop.append (ih hop.phase fun op' h => hops op' (by simp [h]))

end Course

namespace Cursor

variable {settings : Settings} {p? : Option Position} {made c d : Cursor}
variable {during history : List Operation}

/-! ## What is published -/

/-- What a cursor publishes within a transaction, which began where `c` stood, by the operations
since then. -/
structure Pinned (c : Cursor) (during : List Operation) (d : Cursor) : Prop where
  /-- The place stays where the event lies that began the transaction. -/
  place : d.position.place = ⟨c.origin.file, c.origin.offset⟩
  /-- The events that are done are counted, unless the cursor still catches up. -/
  counted : d.catchingUp = false → d.position.eventsDone.toNat = during.count (.notify .finish)
  /-- Announced sets are held back: only what was set as executed is published. -/
  gtids : d.position.gtids = (Operation.last? Operation.executed? during).or c.position.gtids

/-- What the end of a transaction publishes, by the operations since it began and by all the
operations on the cursor since it was made. -/
structure Closes (made : Cursor) (history during : List Operation) (d : Cursor) : Prop where
  phase : d.closeTransaction.phase = .idle
  /-- The place is behind the event that was observed last. -/
  place : ∀ p size, Operation.last? Operation.event? during = some (p, size) →
    d.closeTransaction.position.place = ⟨p.file, p.offset + size⟩
  /-- What was announced last is executed, unless it was executed before. -/
  announced : ∀ g, made.LastAnnounced history g → d.closeTransaction.position.gtids = some g
  unannounced : (∀ g, ¬ made.LastAnnounced history g) →
    d.closeTransaction.position.gtids = d.position.gtids

/-- Operations after the begin of a transaction, none of which ends it. -/
theorem inside_run_begin (hinside : ∀ op ∈ during, op.StaysInside) :
    (c.course.after (.notify .begin)).Inside during (c.run (.notify .begin :: during)).course := by
  rw [course_run]
  exact Course.inside_run rfl hinside

theorem pinned_of_inside (hc : c.Settled) (hd : d.Settled)
    (h : (c.course.after (.notify .begin)).Inside during d.course)
    (hcount : during.count (.notify .finish) < UInt32.size) : c.Pinned during d where
  place := by
    rw [hd.place_eq_course, h.place]
    rfl
  counted hcaught := by
    have hzero : (c.course.after (.notify .begin)).restart.eventsDone = 0 := rfl
    rw [hd.position_eq_course hcaught, h.counted, hzero, UInt32.zero_add]
    exact UInt32.toNat_ofNat_of_lt' hcount
  gtids := by
    rw [hd.gtids_eq_course, h.gtids, hc.gtids_eq_course]
    rfl

theorem closes_of_inside {k : Course} (hmade : made.announced = none) (hd : d.Settled)
    (hrun : d = made.run history) (h : k.Inside during d.course) :
    made.Closes history during d := by
  have hclose : d.closeTransaction.course = d.course.after (.notify .commit) :=
    course_perform d (.notify .commit)
  have hs : d.closeTransaction.Settled := hd.perform (.notify .commit)
  have hgtids : d.closeTransaction.position.gtids = d.announced.or d.position.gtids := by
    rw [hs.gtids_eq_course, hclose, hd.gtids_eq_course]
    rfl
  refine ⟨congrArg Course.phase hclose, fun p size hlast => ?_, fun g hg => ?_, fun hno => ?_⟩
  · have hevent := h.event
    rw [hlast, Option.getD_some, Prod.mk.injEq] at hevent
    rw [hs.place_eq_course, hclose]
    show d.course.next = _
    rw [Course.next, hevent.1, hevent.2]
  · rw [← announced_run_iff hmade, ← hrun] at hg
    rw [hgtids, hg]
    rfl
  · have hnone : d.announced = none := by
      refine Option.eq_none_iff_forall_ne_some.2 fun g hg => hno g ?_
      rw [← announced_run_iff hmade, ← hrun]
      exact hg
    rw [hgtids, hnone]
    rfl

/-- **An open transaction pins the checkpoint.** Whatever was done to a cursor before, from the
begin of a transaction on it publishes the place of the begin, however many operations follow that
leave the transaction open, and it holds back what is announced until the transaction ends. -/
theorem open_transaction_pins (h : made.Made settings p?) (before during : List Operation)
    (hinside : ∀ op ∈ during, op.StaysInside)
    (hcount : during.count (.notify .finish) < UInt32.size) :
    (made.run before).Pinned during (made.run (before ++ .notify .begin :: during)) ∧
      made.Closes (before ++ .notify .begin :: during) during
        (made.run (before ++ .notify .begin :: during)) := by
  have hin := inside_run_begin (c := made.run before) hinside
  rw [← run_append] at hin
  exact ⟨pinned_of_inside (h.settled_run _) (h.settled_run _) hin hcount,
    closes_of_inside h.announced (h.settled_run _) rfl hin⟩

/-- An earlier set is executed, the set of the transaction is announced, and its first event is
observed. -/
def untilBegin : List Operation :=
  [.setExecuted "a:1-5", .notify (.gtid "a:6" "a:1-6"), .notify (.event "bin.000001" 100 20)]

/-- An event of the transaction is done, a blank set is announced, and the last event observed. -/
def untilCommit : List Operation :=
  [.notify (.event "bin.000001" 120 40), .notify (.row 0 1), .notify .finish,
    .notify (.gtid "a:7" " "), .notify (.event "bin.000001" 160 30)]

/-- The place and the executed set stay until the transaction is closed, which publishes what was
announced before its begin. -/
theorem open_transaction_pins_until_closed :
    ∃ d, d = (new .default ⟨"bin.000001", 4⟩).run (untilBegin ++ .notify .begin :: untilCommit) ∧
      d.position.place = ⟨"bin.000001", 100⟩ ∧ d.position.eventsDone.toNat = 1 ∧
      d.position.gtids = some (.firstOfA 5) ∧
      d.closeTransaction.position.place = ⟨"bin.000001", 190⟩ ∧
      d.closeTransaction.position.gtids = some (.firstOfA 6) := by
  have hmade : (new .default ⟨"bin.000001", 4⟩).Made .default none := .new _
  obtain ⟨hpin, hclose⟩ := open_transaction_pins hmade untilBegin untilCommit
    (by simp [untilCommit, Operation.StaysInside]) (by decide)
  have hcourse := course_run (new .default ⟨"bin.000001", 4⟩) untilBegin
  refine ⟨_, rfl, ?_, ?_, ?_, hclose.place ⟨"bin.000001", 160⟩ 30 rfl, hclose.announced _ ?_⟩
  · exact hpin.place.trans (congrArg Course.hand hcourse)
  · exact hpin.counted (catchingUp_eq_false_iff.2 (hmade.coherent.settled.awaited_run rfl _))
  · rw [hpin.gtids, (hmade.settled_run _).gtids_eq_course, hcourse]
    show (GtidSet.named? "a:1-5").or none = _
    rw [GtidSet.named?_five]
    rfl
  · have hblank : GtidSet.named? " " = none := by decide
    have hall := course_run (new .default ⟨"bin.000001", 4⟩)
      (untilBegin ++ .notify .begin :: untilCommit)
    refine (announced_run_iff hmade.announced _).1 ((congrArg Course.announced hall).trans ?_)
    show (GtidSet.named? " ").or ((GtidSet.named? "a:1-6").or none) = _
    rw [hblank, GtidSet.named?_six]
    rfl

end Cursor

end BinlogCursor
