/-
Positions that are stored and read, in both orders.

`checkpoint_round_trip`: a position is read back in its normal form, from a checkpoint and from
JSON. What was read from any checkpoint is in that form, so to read it and to store it again once is
as good as to do so twice, and positions that were read are told apart by what is stored of them.
-/
import BinlogCursor.Proofs.GtidOrder
import BinlogCursor.Proofs.PositionJson

namespace BinlogCursor.Position

variable {m n : Checkpoint} {p q : Position}

/-- A position that was read is read again from what is stored of it. -/
theorem ofCheckpoint_toCheckpoint_of_read (h : ofCheckpoint m = .ok p) :
    ofCheckpoint p.toCheckpoint = .ok p :=
  ofCheckpoint_toCheckpoint (storable_of_ofCheckpoint h)

/-- Storable positions are told apart by their checkpoints. -/
theorem Storable.toCheckpoint_inj (hp : p.Storable) (hq : q.Storable) :
    p.toCheckpoint = q.toCheckpoint ↔ p = q := by
  refine ⟨fun h => ?_, congrArg toCheckpoint⟩
  have hread := ofCheckpoint_toCheckpoint hp
  rw [h, ofCheckpoint_toCheckpoint hq] at hread
  exact (Except.ok.inj hread).symm

/-- **Storing and reading.** A position whose set comes from text is read back in its normal form,
which is the position without a set that is empty and without the server 0: from its checkpoint,
from its JSON and from the text of that. In the other order, a position that was read from a
checkpoint is read again, as it is, from what is stored of it, so storing what was read changes
nothing the second time; and two checkpoints that can be read hold the same position exactly when
the same is stored of what was read from them. -/
theorem checkpoint_round_trip :
    (∀ p : Position, (∀ g, p.gtids = some g → g.FromText) →
        ofCheckpoint p.toCheckpoint = .ok p.normal ∧ ofJson p.toJson = .ok p.normal ∧
          parseJson p.toJson.text = .ok p.normal) ∧
      (∀ m p, ofCheckpoint m = .ok p → ofCheckpoint p.toCheckpoint = .ok p) ∧
      (∀ m n, (ofCheckpoint m).map toCheckpoint = .ok n →
        (ofCheckpoint n).map toCheckpoint = .ok n) ∧
      ∀ m n p q, ofCheckpoint m = .ok p → ofCheckpoint n = .ok q →
        (p = q ↔ p.toCheckpoint = q.toCheckpoint) := by
  refine ⟨fun p hp => ?_, fun m p => ofCheckpoint_toCheckpoint_of_read, fun m n hmn => ?_,
    fun m n p q hp hq => ?_⟩
  · have hread := ofCheckpoint_toCheckpoint_of_wellFormed fun g hg => (hp g hg).wellFormed
    exact ⟨hread, (ofJson_toJson p).trans hread, (parseJson_text_toJson p).trans hread⟩
  · obtain ⟨p, hp, rfl⟩ := Outcome.map_ok_iff.1 hmn
    rw [ofCheckpoint_toCheckpoint_of_read hp]
    rfl
  · exact ((storable_of_ofCheckpoint hp).toCheckpoint_inj (storable_of_ofCheckpoint hq)).symm

/-- A set that is empty and the server 0 are lost, and unusual spellings are read once and stored in
the usual form. -/
theorem checkpoint_round_trip_of_unusual :
    (∃ p : Position, p.gtids = some GtidSet.empty ∧ p.serverId = some 0 ∧
        ∃ q, ofJson p.toJson = .ok q ∧ q.gtids = none ∧ q.serverId = none) ∧
      ∃ m n : Checkpoint, ∃ p, m ≠ n ∧ ofCheckpoint m = .ok p ∧ ofCheckpoint n = .ok p ∧
        p.toCheckpoint = n := by
  obtain ⟨hthere, hback, -, -⟩ := checkpoint_round_trip
  constructor
  · have hparse : GtidSet.parse "" = .ok GtidSet.empty := by rfl
    refine ⟨⟨⟨"log.7", 4⟩, some .empty, 0, 2, true, some 0, none⟩, rfl, rfl, _,
      (hthere _ fun g hg => ?_).2.1, rfl, rfl⟩
    cases hg
    exact .parsed hparse
  · have hread : ofCheckpoint (TextMap.ofList [("filename", "log.7"), ("position", " +07"),
        ("gtid_set", " "), ("row", "0"), ("snapshot", "TRUE"), ("server_id", "0")]) =
        .ok ⟨⟨"log.7", 7⟩, none, 0, 0, true, none, none⟩ := by decide
    exact ⟨_, _, _, by decide, hread, hback _ _ hread, rfl⟩

end BinlogCursor.Position
