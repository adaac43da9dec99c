/-
Cursors that are restored from what others have stored.

`Made.restore_checkpoint`: whatever was done to a cursor, what is stored of it can be restored, and
reading begins where it was published.
-/
import BinlogCursor.Proofs.History
import BinlogCursor.Proofs.Operations

namespace BinlogCursor.Cursor

variable {settings : Settings} {p? : Option Position} {made c : Cursor}

theorem Settled.run (h : c.Settled) (ops : List Operation) : (c.run ops).Settled :=
  run_inv (fun _ op hc => hc.perform op) h ops

/-- From any position that can be stored a cursor can be made. -/
theorem Made.ofStorable (settings : Settings) {p : Position} (h : p.Storable) :
    (restoreAt settings p).Made settings p := by
  have hread := Position.ofCheckpoint_toCheckpoint h
  refine .restored hread ?_
  rw [restore, hread]
  rfl

theorem Made.begins (h : made.Made settings p?) : made.Begins settings := by
  cases h with
  | new place => exact .inl ⟨place, rfl⟩
  | restored read made => exact .inr ⟨_, made⟩

theorem Made.announced (h : made.Made settings p?) : made.announced = none := by
  obtain ⟨p, hp, -, -⟩ := h.begins.startsAt
  exact hp.announced

theorem Made.settled_run (h : made.Made settings p?) (ops : List Operation) :
    (made.run ops).Settled :=
  (h.coherent.run ops).settled

theorem Made.sound_run (h : made.Made settings p?) (ops : List Operation) :
    (made.run ops).Sound settings := by
  obtain ⟨p, hp, hstorable, hserver⟩ := h.begins.startsAt
  exact run_inv (fun _ op hc => hc.perform op) (hp.sound hstorable hserver) ops

theorem Made.restore_checkpoint (h : made.Made settings p?) (ops : List Operation) :
    restore settings (made.run ops).checkpoint = .ok (restoreAt settings (made.run ops).position) ∧
      (restoreAt settings (made.run ops).position).StartsAt (made.run ops).position :=
  Cursor.restore_checkpoint (h.settled_run ops) (h.sound_run ops)

end BinlogCursor.Cursor
