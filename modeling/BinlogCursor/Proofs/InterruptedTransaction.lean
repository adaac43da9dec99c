/-
Interrupted transactions: what becomes of an announced set when a cursor is restored from a
checkpoint that was stored before the transaction ended.

A checkpoint says nothing of what is announced. So after a restart the end of the transaction
executes only what is announced again (`gtids_after_restart`).
-/
import BinlogCursor.Proofs.Log
import BinlogCursor.Proofs.OpenTransaction

namespace BinlogCursor

namespace Operation

/-- Something is told of the events within a transaction: where one starts, that a row is read, or
that one is done. -/
def OfBody : Operation → Prop
  | .notify (.event _ _ _) | .notify (.row _ _) | .notify .finish => True
  | _ => False

variable {op : Operation}

theorem OfBody.staysInside (h : op.OfBody) : op.StaysInside := by
  cases op with
  | notify n =>
    cases n with
    | begin => exact h
    | commit => exact h
    | jump file offset => exact h
    | _ => trivial
  | _ => trivial

theorem OfBody.executed? (h : op.OfBody) : op.executed? = none := by
  cases op with
  | setExecuted set => exact h.elim
  | _ => rfl

theorem OfBody.announced? (h : op.OfBody) : op.announced? = none := by
  cases op with
  | notify n =>
    cases n with
    | gtid id set => exact h.elim
    | _ => rfl
  | _ => rfl

theorem last?_eq_none {α : Type} {tell : Operation → Option α} {ops : List Operation}
    (h : ∀ op ∈ ops, tell op = none) : last? tell ops = none := by
  rw [last?, List.filterMap_eq_nil_iff.2 h]
  rfl

/-- An event of the log starts. -/
def enter (e : LogEvent) : Operation :=
  .notify (.event e.file e.offset e.size)

/-- What is told of a transaction until it ends: the event that begins it, the events of its body,
and the event that ends it. -/
def untilEnd (opening : LogEvent) (body : List Operation) (closing : LogEvent) : List Operation :=
  enter opening :: .notify .begin :: (body ++ [enter closing])

theorem ofBody_append_enter {body : List Operation} (h : ∀ op ∈ body, op.OfBody)
    (closing : LogEvent) : ∀ op ∈ body ++ [enter closing], op.OfBody := by
  intro op hop
  rcases List.mem_append.1 hop with hop | hop
  · exact h op hop
  · rw [List.mem_singleton.1 hop]
    trivial

end Operation

open Operation

variable {opening closing : LogEvent} {body again part : List Operation}

/-- Until the transaction ends nothing is executed, and what is announced stays so. -/
theorem Course.run_of_prefix_untilEnd {k : Course} (hbody : ∀ op ∈ body, op.OfBody)
    (hpart : part <+: untilEnd opening body closing) :
    (k.run part).restart.gtids = k.restart.gtids ∧ (k.run part).announced = k.announced := by
  have henter : (k.after (enter opening)).restart.gtids = k.restart.gtids ∧
      (k.after (enter opening)).announced = k.announced := by
    cases hp : k.phase <;> simp [enter, after, hp, Position.movedTo]
  rcases List.prefix_cons_iff.1 hpart with rfl | ⟨opened, rfl, hopened⟩
  · exact ⟨rfl, rfl⟩
  · rw [run_cons]
    rcases List.prefix_cons_iff.1 hopened with rfl | ⟨inner, rfl, hinner⟩
    · exact henter
    · have hof : ∀ op ∈ inner, op.OfBody := fun op hop =>
        ofBody_append_enter hbody closing op (hinner.subset hop)
      have hin : Inside ((k.after (enter opening)).after (.notify .begin)) inner _ :=
        inside_run rfl fun op hop => (hof op hop).staysInside
      rw [run_cons, hin.gtids, hin.announced, last?_eq_none fun op hop => (hof op hop).executed?,
        last?_eq_none fun op hop => (hof op hop).announced?]
      exact henter

namespace Cursor

variable {settings : Settings} {p? : Option Position} {made d : Cursor}

/-- The end of the transaction executes what is announced by then. -/
theorem Settled.gtids_of_transaction (h : d.Settled) (hbody : ∀ op ∈ body, op.OfBody) :
    (d.run (untilEnd opening body closing ++ [.notify .commit])).position.gtids =
      d.announced.or d.position.gtids := by
  obtain ⟨hgtids, hannounced⟩ := Course.run_of_prefix_untilEnd (k := d.course) hbody
    (List.prefix_refl (untilEnd opening body closing))
  rw [(h.run _).gtids_eq_course, h.gtids_eq_course, course_run, Course.run_concat]
  show (Course.run _ _).announced.or (Course.run _ _).restart.gtids = _
  rw [hgtids, hannounced]
  rfl

theorem announced_announce (d : Cursor) (id : String) {set : String} {g : GtidSet}
    (hset : GtidSet.parseUnlessBlank (some set) = .ok (some g)) :
    (d.announce id set).1.announced = some g := by
  have hcourse := congrArg Course.announced (course_announce d id set)
  rw [GtidSet.named?_eq_some_iff.2 hset] at hcourse
  exact hcourse

/-- Up to the end of an announced transaction a cursor publishes no other set. -/
theorem Made.gtids_of_cut (h : made.Made settings p?) (before : List Operation) (id set : String)
    (hbody : ∀ op ∈ body, op.OfBody) {cut : List Operation}
    (hcut : cut <+: .notify (.gtid id set) :: untilEnd opening body closing) :
    (made.run (before ++ cut)).position.gtids = (made.run before).position.gtids := by
  rw [(h.settled_run _).gtids_eq_course, (h.settled_run _).gtids_eq_course, run_append, course_run]
  rcases List.prefix_cons_iff.1 hcut with rfl | ⟨part, rfl, hpart⟩
  · rfl
  · exact (Course.run_of_prefix_untilEnd hbody hpart).1

/-- **A restart forgets what was announced.** Without it the end of the transaction executes the
announced set. A cursor that is restored from any checkpoint before the end, and is told of the
transaction once more, executes the set only if that is announced again; otherwise it stays with
the set from before the announcement. -/
theorem gtids_after_restart (h : made.Made settings p?) (before : List Operation) (id : String)
    {set : String} {g : GtidSet} (hset : GtidSet.parseUnlessBlank (some set) = .ok (some g))
    (hbody : ∀ op ∈ body, op.OfBody) (hagain : ∀ op ∈ again, op.OfBody) {cut : List Operation}
    (hcut : cut <+: .notify (.gtid id set) :: untilEnd opening body closing) :
    (made.run (before ++ .notify (.gtid id set) ::
        (untilEnd opening body closing ++ [.notify .commit]))).position.gtids = some g ∧
      ∃ c, restore settings (made.run (before ++ cut)).checkpoint = .ok c ∧
        (c.run (untilEnd opening again closing ++ [.notify .commit])).position.gtids =
          (made.run before).position.gtids ∧
        (c.run (.notify (.gtid id set) ::
          (untilEnd opening again closing ++ [.notify .commit]))).position.gtids = some g := by
  -- Whatever a cursor held as announced, a further announcement takes its place.
  have announces : ∀ {d : Cursor} {told}, d.Settled → (∀ op ∈ told, OfBody op) →
      (d.run (.notify (.gtid id set) ::
        (untilEnd opening told closing ++ [.notify .commit]))).position.gtids = some g := by
    intro d told hd htold
    have hd' : (d.announce id set).1.Settled := hd.perform (.notify (.gtid id set))
    rw [run_cons]
    exact (hd'.gtids_of_transaction htold).trans (by rw [announced_announce d id hset]; rfl)
  obtain ⟨hrestore, hstarts⟩ := h.restore_checkpoint (before ++ cut)
  refine ⟨?_, _, hrestore, ?_, announces hstarts.settled hagain⟩
  · rw [run_append]
    exact announces (h.settled_run before) hbody
  · rw [hstarts.settled.gtids_of_transaction hagain, hstarts.announced, position, hstarts.published,
      h.gtids_of_cut before id set hbody hcut]
    rfl

/-- The first event of a transaction of one row. -/
def opensRow : LogEvent :=
  ⟨"bin.000001", 100, 20, 0⟩

/-- What is told of its row. -/
def ofRow : List Operation :=
  [.notify (.event "bin.000001" 120 40), .notify (.row 0 1), .notify .finish]

/-- The last event of the transaction. -/
def closesRow : LogEvent :=
  ⟨"bin.000001", 160, 30, 0⟩

/-- The set of the transaction is announced, and reading is interrupted when its row is noted. -/
def untilRow : List Operation :=
  .notify (.gtid "a:6" "a:1-6") :: (untilEnd opensRow ofRow closesRow).take 4

theorem ofBody_ofRow : ∀ op ∈ ofRow, op.OfBody := by
  intro op hop
  simp only [ofRow, List.mem_cons, List.not_mem_nil, or_false] at hop
  rcases hop with rfl | rfl | rfl <;> trivial

theorem untilRow_cut :
    untilRow <+: Operation.notify (.gtid "a:6" "a:1-6") :: untilEnd opensRow ofRow closesRow :=
  List.cons_prefix_cons.2 ⟨rfl, List.take_prefix 4 _⟩

/-- An earlier set is executed before. Behind the row, the set of the transaction is executed if it
is announced again. -/
theorem gtids_after_restart_behind_row :
    ∃ c, restore .default ((new .default ⟨"bin.000001", 4⟩).run
        ([.setExecuted "a:1-5"] ++ untilRow)).checkpoint = .ok c ∧
      (c.run (.notify (.gtid "a:6" "a:1-6") ::
        (untilEnd opensRow ofRow closesRow ++ [.notify .commit]))).position.gtids =
          some (.firstOfA 6) := by
  obtain ⟨-, c, hrestore, -, hagain⟩ := gtids_after_restart (.new ⟨"bin.000001", 4⟩)
    [.setExecuted "a:1-5"] "a:6" (GtidSet.named?_eq_some_iff.1 GtidSet.named?_six) ofBody_ofRow
    ofBody_ofRow untilRow_cut
  exact ⟨c, hrestore, hagain⟩

/-- If it is not, since reading begins where the transaction does, the end of the transaction does
not execute it. -/
theorem announced_lost_behind_row :
    ∃ c, restore .default ((new .default ⟨"bin.000001", 4⟩).run
        ([.setExecuted "a:1-5"] ++ untilRow)).checkpoint = .ok c ∧
      c.position.place = opensRow.place ∧
      (c.run (untilEnd opensRow ofRow closesRow ++ [.notify .commit])).position.gtids ≠
        some (.firstOfA 6) := by
  have hmade : (new .default ⟨"bin.000001", 4⟩).Made .default none := .new _
  obtain ⟨hrestore, hstarts⟩ := hmade.restore_checkpoint ([.setExecuted "a:1-5"] ++ untilRow)
  have hcut := hmade.gtids_of_cut [.setExecuted "a:1-5"] "a:6" "a:1-6" ofBody_ofRow untilRow_cut
  have hfive : ((new .default ⟨"bin.000001", 4⟩).run [.setExecuted "a:1-5"]).position.gtids =
      some (.firstOfA 5) := by
    rw [(hmade.settled_run _).gtids_eq_course, course_run]
    show (GtidSet.named? "a:1-5").or none = _
    rw [GtidSet.named?_five]
    rfl
  refine ⟨_, hrestore, ?_, ?_⟩
  · rw [position, hstarts.published, (hmade.settled_run _).place_eq_course, course_run]
    rfl
  · rw [hstarts.settled.gtids_of_transaction ofBody_ofRow, hstarts.announced, position,
      hstarts.published, hcut, hfive]
    show some (GtidSet.firstOfA 5) ≠ _
    decide

end Cursor

end BinlogCursor
