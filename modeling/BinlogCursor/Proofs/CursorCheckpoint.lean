/-
What a cursor stores, however it was made and whatever was done to it.

`Reachable` says which cursors there are. The position of each can be stored (`Reachable.storable`):
no operation, and no checkpoint that is restored, brings in an empty set or the server 0. So nothing
is lost in its checkpoint (`checkpoint_lossless`): neither when that is read, nor when a cursor is
restored from it, nor when it is compared in place of the position.
-/
import BinlogCursor.Proofs.Restoring

namespace BinlogCursor.Cursor

variable {settings settings' : Settings} {c d : Cursor}

/-- The cursors under some settings: one was made there, and any operations followed. -/
def Reachable (settings : Settings) (c : Cursor) : Prop :=
  ∃ made p? ops, Made settings made p? ∧ c = made.run ops

theorem Made.reachable {p? : Option Position} (h : c.Made settings p?) : c.Reachable settings :=
  ⟨c, p?, [], h, rfl⟩

namespace Reachable

theorem settled (h : c.Reachable settings) : c.Settled := by
  obtain ⟨made, p?, ops, hmade, rfl⟩ := h
  exact hmade.settled_run ops

theorem storable (h : c.Reachable settings) : c.position.Storable := by
  rw [position, h.settled.published]
  obtain ⟨made, p?, ops, hmade, rfl⟩ := h
  exact (hmade.sound_run ops).storable.shown _

theorem ofCheckpoint (h : c.Reachable settings) :
    Position.ofCheckpoint c.checkpoint = .ok c.position :=
  Position.ofCheckpoint_toCheckpoint h.storable

theorem exists_restore (h : c.Reachable settings) :
    ∃ r, restore settings c.checkpoint = .ok r ∧ r.StartsAt c.position := by
  obtain ⟨made, p?, ops, hmade, rfl⟩ := h
  exact ⟨_, hmade.restore_checkpoint ops⟩

/-- Checkpoints stand to each other as the positions do. -/
theorem compareStored_checkpoint (hc : c.Reachable settings) (hd : d.Reachable settings')
    (f : Comparison) :
    f.compareStored c.checkpoint d.checkpoint = f.compare c.position d.position := by
  rw [Comparison.compareStored, hc.ofCheckpoint, hd.ofCheckpoint]
  rfl

end Reachable

/-- **Nothing is lost.** What a cursor stores is read as the position that it publishes. A cursor
can be restored from it under the same settings; this one stands outside of transactions, publishes
and stores the same, and skips what is done at that position. Two cursors, under whatever settings,
compare by what they store as they do by what they publish. -/
theorem checkpoint_lossless (h : c.Reachable settings) :
    Position.ofCheckpoint c.checkpoint = .ok c.position ∧
      (∃ r, restore settings c.checkpoint = .ok r ∧ r.phase = .idle ∧ r.position = c.position ∧
        r.checkpoint = c.checkpoint ∧ r.eventsAlreadyDone = c.position.eventsDone ∧
        r.rowsAlreadyDone = c.position.row) ∧
      ∀ settings' d (f : Comparison), Reachable settings' d →
        f.compareStored c.checkpoint d.checkpoint = f.compare c.position d.position := by
  refine ⟨h.ofCheckpoint, ?_, fun settings' d f hd => h.compareStored_checkpoint hd f⟩
  obtain ⟨r, hr, hstarts⟩ := h.exists_restore
  exact ⟨r, hr, hstarts.phase, hstarts.published, congrArg Position.toCheckpoint hstarts.published,
    hstarts.eventsAlreadyDone, hstarts.rowsAlreadyDone⟩

/-- A cursor that was restored from a checkpoint with a blank set and the server 0, within a
transaction, and that has not yet come there again. -/
theorem checkpoint_lossless_while_catching_up :
    ∃ c : Cursor, c.Reachable { Settings.default with serverId := 0 } ∧ c.catchingUp = true ∧
      c.transactionOpen = true ∧
      (∃ r, restore { Settings.default with serverId := 0 } c.checkpoint = .ok r ∧
        r.phase = .idle ∧ r.eventsAlreadyDone = 1 ∧ r.rowsAlreadyDone = 2) ∧
      Comparison.unfiltered.compareStored c.checkpoint
        (new .default ⟨"bin.000001", 120⟩).checkpoint = .ok .after := by
  obtain ⟨m, hread⟩ : ∃ m, Position.ofCheckpoint m = .ok leftWithin :=
    ⟨TextMap.ofList [("filename", "bin.000001"), ("position", "120"), ("events_to_skip", "1"),
      ("row", "2"), ("gtid_set", " "), ("server_id", "0")], by decide⟩
  have hmade : restore { Settings.default with serverId := 0 } m =
      .ok (restoreAt { Settings.default with serverId := 0 } leftWithin) := by
    rw [restore, hread]
    rfl
  have hreach : Reachable _ _ := ⟨_, _, [.notify (.event "bin.000001" 120 40), .notify .begin,
    .notify (.event "bin.000001" 160 40), .setExecuted " "], .restored hread hmade, rfl⟩
  obtain ⟨-, ⟨r, hr, hidle, -, -, hevents, hrows⟩, hcompare⟩ := checkpoint_lossless hreach
  refine ⟨_, hreach, by decide, by decide, ⟨r, hr, hidle, hevents, hrows⟩, ?_⟩
  exact (hcompare .default _ _ (Made.new ⟨"bin.000001", 120⟩).reachable).trans (by decide)

end BinlogCursor.Cursor
