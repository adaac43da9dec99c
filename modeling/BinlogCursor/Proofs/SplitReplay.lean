/-
Split replays: notifications are replayed in two parts, and the second part begins with a cursor
that is restored from what the first has stored.

Between two events outside of any transaction such a cursor differs from the one that goes on only
in the event at hand (`Course.Alike`). The next event makes the two courses equal
(`Course.Alike.event`), and equal courses stay so, whatever follows.
-/
import BinlogCursor.Command
import BinlogCursor.Proofs.Announcement
import BinlogCursor.Proofs.PositionJson
import BinlogCursor.Proofs.Restoring

namespace BinlogCursor

/-- Behind announcements, if there are any, the first thing that is told is that an event starts. -/
def OpensWithEvent : List Notification → Prop
  | [] | .event _ _ _ :: _ => True
  | .gtid _ _ :: rest => OpensWithEvent rest
  | _ => False

variable {told : List Notification}

theorem OpensWithEvent.of_prefix {all : List Notification} (h : OpensWithEvent all)
    (hp : told <+: all) : OpensWithEvent told := by
  induction all generalizing told with
  | nil =>
    rw [List.prefix_nil.1 hp]
    trivial
  | cons n all ih =>
    rcases List.prefix_cons_iff.1 hp with rfl | ⟨told, rfl, hrest⟩
    · trivial
    · cases n with
      | gtid id set =>
        have htold : OpensWithEvent told := ih h hrest
        exact htold
      | _ => exact h

/-! ## Courses -/

namespace Course

variable {k k' : Course}

/-- Two courses differ at most in the event at hand. -/
structure Alike (k k' : Course) : Prop where
  phase : k.phase = k'.phase
  restart : k.restart = k'.restart
  announced : k.announced = k'.announced

theorem Alike.refl (k : Course) : k.Alike k :=
  ⟨rfl, rfl, rfl⟩

theorem Alike.announce (h : k.Alike k') (id set : String) :
    (k.after (.notify (.gtid id set))).Alike (k'.after (.notify (.gtid id set))) :=
  ⟨h.phase, h.restart, congrArg (GtidSet.named? set).or h.announced⟩

/-- An event outside of any transaction is all that such courses need to become equal. -/
theorem Alike.event (h : k.Alike k') (hp : k.phase = .idle) (file : String) (offset size : UInt64) :
    k.after (.notify (.event file offset size)) = k'.after (.notify (.event file offset size)) := by
  have hp' : k'.phase = .idle := h.phase ▸ hp
  simp only [after, hp, hp', h.restart, h.announced]

theorem Alike.run (h : k.Alike k') (hp : k.phase = .idle) (hopens : OpensWithEvent told) :
    (k.run (told.map .notify)).Alike (k'.run (told.map .notify)) := by
  induction told generalizing k k' with
  | nil => exact h
  | cons n told ih =>
    rw [List.map_cons, run_cons, run_cons]
    cases n with
    | gtid id set => exact ih (h.announce id set) hp hopens
    | event file offset size =>
      rw [h.event hp]
      exact .refl _
    | _ => exact hopens.elim

end Course

namespace Cursor

variable {settings : Settings} {p? : Option Position} {made c c' d : Cursor}
variable {first second : List Notification}

/-! ## Replays -/

/-- A replay comes to its end if every notification can be taken note of, whatever was told
before. -/
theorem replay_eq_ok_iff : c.replay told = .ok d ↔
    (∀ n ∈ told, (c.apply n).2 = .ok ()) ∧ d = c.run (told.map .notify) := by
  induction told generalizing c with
  | nil =>
    have hnil : c.replay [] = .ok c := rfl
    simp [hnil, eq_comm]
  | cons n told ih =>
    have houtcome : ∀ m, ((c.apply n).1.apply m).2 = (c.apply m).2 := fun m =>
      outcome_perform _ _ (.notify m)
    have hcons : c.replay (n :: told) =
        match (c.apply n).2 with
        | .ok () => (c.apply n).1.replay told
        | .error e => .error e := by
      rw [replay, List.foldlM_cons]
      rcases c.apply n with ⟨next, e | ⟨⟩⟩ <;> rfl
    rw [hcons]
    cases hn : (c.apply n).2 with
    | error e => simp [hn]
    | ok u =>
      simp only [ih, houtcome, List.forall_mem_cons, hn, true_and]
      rfl

/-- What is published and stored of two cursors is the same, and both are in a transaction or
neither is. -/
structure LooksLike (c c' : Cursor) : Prop where
  position : c.position = c'.position
  checkpoint : c.checkpoint = c'.checkpoint
  phase : c.phase = c'.phase

theorem looksLike_of_alike (hc : c.Settled) (hc' : c'.Settled) (hcaught : c.catchingUp = false)
    (hcaught' : c'.catchingUp = false) (h : c.course.Alike c'.course) : c.LooksLike c' := by
  have hposition : c.position = c'.position := by
    rw [hc.position_eq_course hcaught, hc'.position_eq_course hcaught', h.restart]
  exact ⟨hposition, congrArg Position.toCheckpoint hposition, h.phase⟩

/-- What the settings and a printed position say to start from is what is restored from the
checkpoint of that position. -/
theorem startCursor_position (hc : c.Settled) (hsound : c.Sound settings) :
    Command.startCursor settings (some c.position.toJson.text) = restore settings c.checkpoint := by
  have hstorable : c.position.Storable := by
    rw [position, hc.published]
    exact hsound.storable.shown c.awaited
  rw [Command.startCursor, Position.parseJson_text hstorable]
  rfl

/-- A cursor that is idle and has nothing left to catch up with goes on like the one that is
restored from what is stored of it. -/
theorem StartsAt.alike (hc : c.Settled) (hc' : c'.StartsAt c.position) (hidle : c.phase = .idle)
    (hcaught : c.catchingUp = false) (hevents : c.position.eventsDone = 0)
    (hrow : c.position.row = 0) (hannounced : c.announced = none) :
    c'.catchingUp = false ∧ c.course.Alike c'.course := by
  have hprogress : progressOf c.position = none := if_pos ⟨hevents, hrow⟩
  refine ⟨catchingUp_eq_false_iff.2 (hc'.awaited.trans hprogress), ?_⟩
  refine ⟨hidle.trans hc'.phase.symm, ?_, hannounced.trans hc'.announced.symm⟩
  have hsame := shown_progressOf c.position
  rw [hprogress] at hsame
  rw [← hc.position_eq_course hcaught]
  exact (hc'.restart.trans hsame).symm

/-- **Splitting a replay at a clean boundary is invisible.** A cursor has replayed some
notifications; it is outside of any transaction, has nothing left to catch up with, no row of an
event done and no announced set held. A cursor restored from its checkpoint, as a replay from its
printed position begins, then takes note of the same further notifications, and cannot be told from
it behind any of them, if the first of these apart from announcements is that of an event. -/
theorem split_replay_invisible (h : made.Made settings p?) (hfirst : made.replay first = .ok c)
    (hidle : c.phase = .idle) (hcaught : c.catchingUp = false) (hrow : c.position.row = 0)
    (hannounced : c.announced = none) (hopens : OpensWithEvent second) :
    ∃ c', restore settings c.checkpoint = .ok c' ∧
      Command.startCursor settings (some c.position.toJson.text) = .ok c' ∧
      (∀ told, told <+: second →
        (c.run (told.map .notify)).LooksLike (c'.run (told.map .notify))) ∧
      ∀ told n rest, second = told ++ n :: rest →
        ((c.run (told.map .notify)).apply n).2 = ((c'.run (told.map .notify)).apply n).2 := by
  obtain ⟨-, rfl⟩ := replay_eq_ok_iff.1 hfirst
  have hc := h.settled_run (first.map .notify)
  have hevents := (h.coherent.run (first.map .notify)).consistent.idle hidle hcaught
  obtain ⟨hrestore, hstarts⟩ := h.restore_checkpoint (first.map .notify)
  obtain ⟨hcaught', halike⟩ := hstarts.alike hc hidle hcaught hevents hrow hannounced
  refine ⟨_, hrestore, ?_, fun told hprefix => ?_,
    fun told n rest _ => outcome_perform _ _ (.notify n)⟩
  · rw [startCursor_position hc (h.sound_run _), hrestore]
  · have hrun := halike.run hidle (hopens.of_prefix hprefix)
    rw [← course_run, ← course_run] at hrun
    refine looksLike_of_alike (hc.run _) (hstarts.settled.run _) ?_ ?_ hrun
    · exact catchingUp_eq_false_iff.2 (hc.awaited_run (catchingUp_eq_false_iff.1 hcaught) _)
    · exact catchingUp_eq_false_iff.2
        (hstarts.settled.awaited_run (catchingUp_eq_false_iff.1 hcaught') _)

/-- A transaction is announced, read and ended. -/
def untilBoundary : List Notification :=
  [.gtid "a:6" "a:1-6", .event "bin.000001" 100 20, .begin, .event "bin.000001" 120 40, .row 0 2,
    .finish, .event "bin.000001" 160 30, .commit]

/-- The event behind it begins a transaction twice, and reading goes on elsewhere before the end. -/
def beyondBoundary : List Notification :=
  [.gtid "a:7" " ", .event "bin.000001" 190 20, .begin, .begin, .finish, .jump "bin.000002" 4,
    .commit]

/-- The second part of a replay begins behind a transaction, whose set has been executed by then. -/
theorem split_replay_invisible_behind_transaction :
    ∃ c c', (new .default ⟨"bin.000001", 4⟩).replay untilBoundary = .ok c ∧
      c.position.gtids = some (.firstOfA 6) ∧
      Command.startCursor .default (some c.position.toJson.text) = .ok c' ∧
      (c.run (beyondBoundary.map .notify)).LooksLike (c'.run (beyondBoundary.map .notify)) := by
  have hmade : (new .default ⟨"bin.000001", 4⟩).Made .default none := .new _
  have hread : ∀ n ∈ untilBoundary, ((new .default ⟨"bin.000001", 4⟩).apply n).2 = .ok () := by
    intro n hn
    cases n with
    | gtid id set =>
      obtain ⟨rfl, rfl⟩ : id = "a:6" ∧ set = "a:1-6" := by simpa [untilBoundary] using hn
      simp only [apply, announce, GtidSet.named?_eq_some_iff.1 GtidSet.named?_six]
    | _ => rfl
  have hfirst := replay_eq_ok_iff.2 ⟨hread, rfl⟩
  have hopens : OpensWithEvent beyondBoundary := trivial
  have hcourse := course_run (new .default ⟨"bin.000001", 4⟩) (untilBoundary.map .notify)
  have hcaught := catchingUp_eq_false_iff.2
    (hmade.coherent.settled.awaited_run rfl (untilBoundary.map .notify))
  have hrestart := ((hmade.settled_run _).position_eq_course hcaught).trans
    (congrArg Course.restart hcourse)
  obtain ⟨c', -, hstart, hlooks, -⟩ := split_replay_invisible hmade hfirst
    (congrArg Course.phase hcourse) hcaught (congrArg Position.row hrestart)
    (congrArg Course.announced hcourse) hopens
  refine ⟨_, c', hfirst, ?_, hstart, hlooks _ (List.prefix_refl _)⟩
  refine (congrArg Position.gtids hrestart).trans ?_
  show ((GtidSet.named? "a:1-6").or none).or none = _
  rw [GtidSet.named?_six]
  rfl

end Cursor

end BinlogCursor
