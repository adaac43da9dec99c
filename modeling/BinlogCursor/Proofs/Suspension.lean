/-
Streaming that stops for a snapshot goes on where it stopped.

`Pauses`: while a snapshot is taken, a cursor changes in nothing but the snapshot and the time
that its position names, whatever is noted for the rows. `compare_pausedAt`: a position and what
becomes of it differ by the snapshot alone, whatever servers count. So a session resumes at its
position once the snapshot is over, and not before (`resumes_where_suspended`).
-/
import BinlogCursor.Pattern
import BinlogCursor.Proofs.ComparisonDuality
import BinlogCursor.Proofs.Course
import BinlogCursor.Proofs.CursorCheckpoint
import BinlogCursor.Snapshot.Session

namespace BinlogCursor

/-! ## Positions -/

/-- The position, within a snapshot or not, at another time. -/
def Position.pausedAt (p : Position) (duringSnapshot : Bool) (seconds : Option UInt64) : Position :=
  { p with duringSnapshot, seconds }

/-- A position comes at or before what becomes of it once a snapshot is over. -/
theorem Position.isLE_snapshotOrder_pausedAt (p : Position) (seconds : Option UInt64) :
    (p.snapshotOrder (p.pausedAt false seconds)).isLE = true := by
  simp only [snapshotOrder, pausedAt]
  cases p.duringSnapshot <;> rfl

/-- A position outside of snapshots comes after what becomes of it in one. -/
theorem Position.snapshotOrder_pausedAt_true {p : Position} (h : p.duringSnapshot = false)
    (seconds : Option UInt64) : p.snapshotOrder (p.pausedAt true seconds) = .after := by
  simp only [snapshotOrder, pausedAt, h]

namespace Comparison

open Position

/-- A position and what becomes of it differ by the snapshot alone, whatever servers count. -/
theorem compare_pausedAt (f : Comparison) {p : Position} (hp : p.WellFormed)
    (h : p.gtids.isSome = true ∨ LogFile.HasNumber p.place.file) (duringSnapshot : Bool)
    (seconds : Option UInt64) :
    f.compare p (p.pausedAt duringSnapshot seconds) =
      .ok (p.snapshotOrder (p.pausedAt duringSnapshot seconds)) := by
  cases hg : p.gtids with
  | some g =>
    have hrefl := GtidSet.isWithin_refl (f.wellFormed_restrict (hp g hg))
    have hsame := GtidSet.order?_eq_some_eq_iff.2 ⟨hrefl, hrefl⟩
    have hg' : (p.pausedAt duringSnapshot seconds).gtids = some g := hg
    rw [f.compare_of_gtids hg hg', hsame]
    rfl
  | none =>
    have hnumber : LogFile.HasNumber p.place.file := by simpa [hg] using h
    obtain ⟨file, hfile⟩ := Option.isSome_iff_exists.1 (LogFile.isSome_parse?_iff.2 hnumber)
    have hplace : p.place.order p.place = .ok .eq :=
      Place.order_eq_ok_iff.2 ⟨file, file, hfile, hfile, rfl, Std.ReflCmp.compare_self⟩
    have hserver : p.onDifferentServers (p.pausedAt duringSnapshot seconds) = false :=
      onDifferentServers_eq_false p.sharesServer_self
    have horder : p.orderByPlace (p.pausedAt duringSnapshot seconds) = .ok .eq := by
      simp only [orderByPlace, pausedAt, hplace, Std.ReflCmp.compare_self]
      rfl
    have hg' : (p.pausedAt duringSnapshot seconds).gtids = none := hg
    rw [f.compare_none_none hg hg', orderWithoutGtids, hserver, horder]
    rfl

end Comparison

/-! ## Cursors -/

namespace Course

/-- What is noted for the rows changes nothing of the course but the time. -/
theorem after_note (k : Course) {op : Operation} (hop : op.IsNote) :
    ∃ seconds, k.after op = { k with restart := { k.restart with seconds } } := by
  cases op with
  | noteTime time => exact ⟨_, rfl⟩
  | markSnapshotEnd => exact ⟨_, rfl⟩
  | noteDatabase database => exact ⟨_, rfl⟩
  | noteTable database table => exact ⟨_, rfl⟩
  | noteThread thread => exact ⟨_, rfl⟩
  | noteQuery query => exact ⟨_, rfl⟩
  | _ => exact hop.elim

end Course

namespace Cursor

variable {c c' : Cursor} {duringSnapshot : Bool}

/-- What becomes of a cursor when a snapshot is taken: the same progress is awaited, and its
restart position differs in the snapshot and the time alone. -/
structure Pauses (c : Cursor) (duringSnapshot : Bool) (c' : Cursor) : Prop where
  settled : c'.Settled
  awaited : c'.awaited = c.awaited
  restart : ∃ seconds, c'.restart = c.restart.pausedAt duringSnapshot seconds

theorem Pauses.position (hc : c.Settled) (h : c.Pauses duringSnapshot c') :
    ∃ seconds, c'.position = c.position.pausedAt duringSnapshot seconds := by
  obtain ⟨seconds, hr⟩ := h.restart
  refine ⟨seconds, ?_⟩
  rw [Cursor.position, h.settled.published, h.awaited, hr, Cursor.position, hc.published]
  cases c.awaited <;> rfl

/-- Progress that is awaited is awaited still, as the restart position does not come any further. -/
theorem Pauses.perform (h : c.Pauses duringSnapshot c') (op : Operation) {during : Bool}
    (seconds : Option UInt64)
    (hop : (c'.course.after op).restart = c'.restart.pausedAt during seconds) :
    c.Pauses during (c'.perform op).1 := by
  have hr : (c'.perform op).1.restart = c'.restart.pausedAt during seconds :=
    (congrArg Course.restart (course_perform c' op)).trans hop
  refine ⟨h.settled.perform op, ?_, ?_⟩
  · rw [awaited_perform h.settled op, hr]
    exact h.settled.awaited_eq.symm.trans h.awaited
  · obtain ⟨_, hr'⟩ := h.restart
    rw [hr, hr']
    exact ⟨seconds, rfl⟩

/-- A cursor that stays as it is. -/
theorem Settled.pauses (h : c.Settled) : c.Pauses c.restart.duringSnapshot c :=
  ⟨h, rfl, c.restart.seconds, rfl⟩

/-- Notes leave the snapshot as it is. -/
theorem Pauses.run (h : c.Pauses duringSnapshot c') {ops : List Operation}
    (hops : ∀ op ∈ ops, op.IsNote) : c.Pauses duringSnapshot (c'.run ops) := by
  induction ops generalizing c' with
  | nil => exact h
  | cons op ops ih =>
    rw [run_cons]
    refine ih ?_ fun op' hop' => hops op' (by simp [hop'])
    obtain ⟨seconds, hafter⟩ := c'.course.after_note (hops op (by simp))
    have hduring : c'.restart.duringSnapshot = duringSnapshot := by
      obtain ⟨_, hr⟩ := h.restart
      rw [hr]
      rfl
    refine h.perform op seconds ?_
    rw [hafter, ← hduring]
    rfl

end Cursor

namespace Snapshot.Session

variable {settings : Settings} {c : Cursor} {ops : List Operation}

open Cursor

/-- A session resumes where it was suspended if that is at or before the recorded position. -/
theorem resume_eq_ok_iff [Pattern.Engine] {s : Session} {f : Comparison} {q r : Position} :
    s.resume f q = .ok r ↔ f.isLE s.suspendedAt q = .ok true ∧ r = s.suspendedAt := by
  simp only [resume, Comparison.isLE]
  cases f.compare s.suspendedAt q with
  | error e => simp [bind, Except.bind, Except.map]
  | ok standing =>
    cases standing <;>
      simp [bind, Except.bind, Except.map, pure, Except.pure, Standing.isLE, eq_comm]

/-- Streaming does not go on when the recorded position lies before the session's. -/
theorem resume_of_after [Pattern.Engine] {s : Session} {f : Comparison} {q : Position}
    (h : f.compare s.suspendedAt q = .ok .after) :
    s.resume f q = .error (.signal (.behindSuspension q.text s.suspendedAt.text)) := by
  rw [resume, h]
  rfl

/-- **Streaming resumes where it stopped.** A session is suspended at the position of any cursor, if
that has a set or a file with a number. Once the snapshot is over, the cursor's position is still
that one but for the snapshot and the time, and the session resumes there, whatever was noted for
rows and whatever servers count. While the snapshot is taken it does not. In general a session
resumes just when it was suspended at or before what is recorded, and only where that was. -/
theorem resumes_where_suspended [Pattern.Engine] (h : c.Reachable settings)
    (hp : c.position.gtids.isSome = true ∨ LogFile.HasNumber c.position.place.file)
    (request : Request) (f : Comparison) (hops : ∀ op ∈ ops, op.IsNote) :
    (∃ seconds, (c.run (.enterSnapshot :: ops ++ [.leaveSnapshot])).position =
        { c.position with duringSnapshot := false, seconds }) ∧
      (suspend request c.position).resume f
          (c.run (.enterSnapshot :: ops ++ [.leaveSnapshot])).position = .ok c.position ∧
      (c.position.duringSnapshot = false →
        (suspend request c.position).resume f (c.run (.enterSnapshot :: ops)).position =
          .error (.signal (.behindSuspension (c.run (.enterSnapshot :: ops)).position.text
            c.position.text))) ∧
      ∀ (s : Session) (d : Comparison) (q : Position),
        ((∃ r, s.resume d q = .ok r) ↔ d.isLE s.suspendedAt q = .ok true) ∧
          ∀ r, s.resume d q = .ok r → r = s.suspendedAt := by
  have hs := h.settled
  have hwf : c.position.WellFormed := fun g hg => (h.storable.gtids g hg).wellFormed
  have hduring : c.Pauses true (c.run (.enterSnapshot :: ops)) :=
    (hs.pauses.perform .enterSnapshot _ rfl).run hops
  have hafter : c.Pauses false (c.run (.enterSnapshot :: ops ++ [.leaveSnapshot])) := by
    rw [run_append]
    exact hduring.perform .leaveSnapshot _ rfl
  -- Of what becomes of the position, only the snapshot counts in comparisons.
  obtain ⟨_, hmid⟩ := hduring.position hs
  obtain ⟨seconds, hend⟩ := hafter.position hs
  refine ⟨⟨seconds, hend⟩, ?_, fun hout => ?_, fun s d q => ⟨?_, fun r hr => ?_⟩⟩
  · rw [hend]
    refine resume_eq_ok_iff.2 ⟨?_, rfl⟩
    exact f.isLE_eq_true_iff.2
      ⟨_, f.compare_pausedAt hwf hp false seconds, c.position.isLE_snapshotOrder_pausedAt seconds⟩
  · refine resume_of_after ?_
    rw [hmid, suspend, f.compare_pausedAt hwf hp, Position.snapshotOrder_pausedAt_true hout]
  · constructor
    · rintro ⟨r, hr⟩
      exact (resume_eq_ok_iff.1 hr).1
    · intro hle
      exact ⟨_, resume_eq_ok_iff.2 ⟨hle, rfl⟩⟩
  · exact (resume_eq_ok_iff.1 hr).2

/-- A cursor that was restored within a transaction and has not yet come there again. -/
theorem resumes_where_suspended_while_catching_up :
    ∃ (c : Cursor) (request : Request), c.Reachable .default ∧ c.catchingUp = true ∧
      (Request.ofSignal ⟨.blocking, ["shop\\.orders"], []⟩).toOption = some request ∧
      (suspend request c.position).resume .unfiltered
          (c.run [.enterSnapshot, .noteTable "shop" "orders", .noteTime ⟨5, 0⟩]).position =
        .error (.signal (.behindSuspension
          "bin.000001:120 (events: 1, row: 2, snapshot)"
          "bin.000001:120 (events: 1, row: 2)")) ∧
      (suspend request c.position).resume .unfiltered
          (c.run [.enterSnapshot, .noteTable "shop" "orders", .noteTime ⟨5, 0⟩,
            .leaveSnapshot]).position = .ok c.position := by
  have hstorable : leftWithin.Storable := ⟨fun g hg => (by cases hg), by decide⟩
  have hreach := (Made.ofStorable .default hstorable).reachable
  obtain ⟨request, hrequest⟩ := Option.isSome_iff_exists.1
    (show (Request.ofSignal ⟨.blocking, ["shop\\.orders"], []⟩).toOption.isSome = true by
      decide +kernel)
  have hops : ∀ op ∈ [Operation.noteTable "shop" "orders", .noteTime ⟨5, 0⟩], op.IsNote := by
    simp [Operation.IsNote]
  obtain ⟨-, hresumed, hmid, -⟩ := resumes_where_suspended hreach
    (.inr (LogFile.isSome_parse?_iff.1 (by decide))) request .unfiltered hops
  exact ⟨_, request, hreach, by decide, hrequest, (hmid rfl).trans (by decide), hresumed⟩

end Snapshot.Session

end BinlogCursor
