/-
A cursor follows a reader: at every station its restart position counts what is done of the
item at hand.

`At.moves`: a call that takes the reader to another station takes the cursor there too, and
its restart position never goes back (`Position.Advance`).
-/
import BinlogCursor.Proofs.Publishing
import BinlogCursor.Proofs.Station

namespace BinlogCursor

namespace Cursor

variable {c c' : Cursor} {e : LogEvent}

/-! ## Calls -/

theorem hear_enter_idle (h : c.phase = .idle) :
    c.hear (.enter e) = publish { c with
      origin := { c.origin with file := e.file, offset := e.offset, row := 0 }
      eventSize := e.size
      restart := { c.restart with place := e.place, row := 0, eventsDone := 0 } } := by
  simp only [hear, Call.notification, apply, enterEvent, h]
  rfl

theorem hear_enter_inTransaction (h : c.phase = .inTransaction) :
    c.hear (.enter e) = { c with
      origin := { c.origin with file := e.file, offset := e.offset, row := 0 }
      eventSize := e.size } := by
  simp only [hear, Call.notification, apply, enterEvent, h]

theorem hear_begin (c : Cursor) :
    c.hear .begin = publish { c with
      phase := .inTransaction
      restart := { c.restart with
        place := ⟨c.origin.file, c.origin.offset⟩
        row := 0
        eventsDone := 0 } } := rfl

/-- The rows that are done once a row is read. -/
def rowsDone (e : LogEvent) (i : Nat) : UInt32 :=
  if (UInt32.ofNat i).toNat + 1 < e.rows.toNat then .ofNat i + 1 else e.rows

theorem hear_row (c : Cursor) (e : LogEvent) (i : Nat) :
    c.hear (.row e i) = publish { c with
      origin := { c.origin with row := .ofNat i }
      restart := { c.restart with row := rowsDone e i } } := rfl

theorem toNat_rowsDone {i : Nat} (h : i < e.rows.toNat) : (rowsDone e i).toNat = i + 1 := by
  have hlt := e.rows.toNat_lt
  have hi : (UInt32.ofNat i).toNat = i := by
    refine UInt32.toNat_ofNat_of_lt' ?_
    simp only [UInt32.size]
    omega
  simp only [rowsDone, hi]
  split
  · rw [UInt32.toNat_add, hi, UInt32.toNat_one]
    omega
  · omega

theorem hear_finish_inTransaction (h : c.phase = .inTransaction) :
    c.hear .finish = publish { c with
      restart := { c.restart with eventsDone := c.restart.eventsDone + 1, row := 0 } } := by
  simp only [hear, Call.notification, apply, finishEvent, h]

theorem hear_finish_idle (h : c.phase = .idle) :
    c.hear .finish = publish { c with
      announced := none
      restart := { c.restart with
        place := c.nextPlace
        gtids := c.announced.or c.restart.gtids
        row := 0 } } := by
  simp only [hear, Call.notification, apply, finishEvent, h, takeAnnounced_eq]

theorem hear_commit (c : Cursor) :
    c.hear .commit = publish { c with
      phase := .idle
      origin := { c.origin with query := none }
      announced := none
      restart := { c.restart with
        place := c.nextPlace
        gtids := c.announced.or c.restart.gtids
        row := 0
        eventsDone := 0 } } := by
  simp only [hear, Call.notification, apply, closeTransaction, takeAnnounced_eq, moveTo]
  rfl

/-! ## What a call carries on -/

/-- What was executed stays so, and what was announced is still to come or is executed too; the
rest does not change. -/
structure Carries (c c' : Cursor) : Prop where
  duringSnapshot : c'.restart.duringSnapshot = c.restart.duringSnapshot
  serverId : c'.restart.serverId = c.restart.serverId
  gtids : (c'.restart.gtids = c.restart.gtids ∧ c'.announced = c.announced) ∨
    (c'.restart.gtids = c.announced.or c.restart.gtids ∧ c'.announced = none)

theorem Carries.publish (h : c.Carries c') : c.Carries c'.publish := by
  refine ⟨?_, ?_, ?_⟩
  · rw [restart_publish]
    exact h.duringSnapshot
  · rw [restart_publish]
    exact h.serverId
  · rw [restart_publish, announced_publish]
    exact h.gtids

theorem carries_hear (c : Cursor) (a : Call) : c.Carries (c.hear a) := by
  cases a with
  | enter e =>
    cases hp : c.phase with
    | idle =>
      rw [hear_enter_idle hp]
      exact Carries.publish ⟨rfl, rfl, .inl ⟨rfl, rfl⟩⟩
    | inTransaction =>
      rw [hear_enter_inTransaction hp]
      exact ⟨rfl, rfl, .inl ⟨rfl, rfl⟩⟩
  | begin =>
    rw [hear_begin]
    exact Carries.publish ⟨rfl, rfl, .inl ⟨rfl, rfl⟩⟩
  | row e i =>
    rw [hear_row]
    exact Carries.publish ⟨rfl, rfl, .inl ⟨rfl, rfl⟩⟩
  | finish =>
    cases hp : c.phase with
    | idle =>
      rw [hear_finish_idle hp]
      exact Carries.publish ⟨rfl, rfl, .inr ⟨rfl, rfl⟩⟩
    | inTransaction =>
      rw [hear_finish_inTransaction hp]
      exact Carries.publish ⟨rfl, rfl, .inl ⟨rfl, rfl⟩⟩
  | commit =>
    rw [hear_commit]
    exact Carries.publish ⟨rfl, rfl, .inr ⟨rfl, rfl⟩⟩

theorem seconds_hear (c : Cursor) (a : Call) :
    (c.hear a).restart.seconds = c.restart.seconds := by
  cases a with
  | enter e =>
    cases hp : c.phase with
    | idle => rw [hear_enter_idle hp, restart_publish]
    | inTransaction => rw [hear_enter_inTransaction hp]
  | begin => rw [hear_begin, restart_publish]
  | row e i => rw [hear_row, restart_publish]
  | finish =>
    cases hp : c.phase with
    | idle => rw [hear_finish_idle hp, restart_publish]
    | inTransaction => rw [hear_finish_inTransaction hp, restart_publish]
  | commit => rw [hear_commit, restart_publish]

theorem carries_note (c : Cursor) {op : Operation} (hop : op.IsNote) :
    c.Carries (c.perform op).1 := by
  cases op with
  | notify n => exact hop.elim
  | setExecuted set => exact hop.elim
  | enterSnapshot => exact hop.elim
  | leaveSnapshot => exact hop.elim
  | markSnapshotEnd => exact ⟨rfl, rfl, .inl ⟨rfl, rfl⟩⟩
  | noteTime time => exact Carries.publish ⟨rfl, rfl, .inl ⟨rfl, rfl⟩⟩
  | noteDatabase database => exact ⟨rfl, rfl, .inl ⟨rfl, rfl⟩⟩
  | noteTable database table => exact ⟨rfl, rfl, .inl ⟨rfl, rfl⟩⟩
  | noteThread thread => exact ⟨rfl, rfl, .inl ⟨rfl, rfl⟩⟩
  | noteQuery query => exact ⟨rfl, rfl, .inl ⟨rfl, rfl⟩⟩

theorem carries_jumpTo (c : Cursor) (file : String) (offset : UInt64) :
    c.Carries (c.jumpTo file offset) :=
  Carries.publish ⟨rfl, rfl, .inl ⟨rfl, rfl⟩⟩

/-! ## At a station -/

/-- The cursor stands where a reader is: it knows the event at hand, and its restart position
counts what is done of the item. Rows count only once one was read. -/
structure At (c : Cursor) (σ : Station) : Prop where
  phase : c.phase = σ.spot.phase
  place : c.restart.place = σ.spot.base
  events : c.restart.eventsDone.toNat = σ.spot.done.length
  row : c.restart.row.toNat = 0 ∨ σ.spot.AtRows ∧ c.restart.row.toNat = σ.row
  hand : ∀ e, σ.spot.event? = some e → (⟨c.origin.file, c.origin.offset⟩ : Place) = e.place ∧
    c.eventSize = e.size

variable {σ σ' : Station}

theorem At.publish (h : c.At σ) : c.publish.At σ := by
  refine ⟨?_, ?_, ?_, ?_, ?_⟩
  · rw [phase_publish]
    exact h.phase
  · rw [restart_publish]
    exact h.place
  · rw [restart_publish]
    exact h.events
  · rw [restart_publish]
    exact h.row
  · rw [origin_publish, eventSize_publish]
    exact h.hand

/-- Away from the rows of an event none counts. -/
theorem At.row_eq_zero (h : c.At σ) (hat : ¬ σ.spot.AtRows) : c.restart.row.toNat = 0 :=
  h.row.resolve_right fun hr => hat hr.1

theorem At.nextPlace (h : c.At σ) (he : σ.spot.event? = some e) : c.nextPlace = e.next := by
  obtain ⟨hp, hs⟩ := h.hand e he
  have hfile : c.origin.file = e.file := congrArg Place.file hp
  have hoffset : c.origin.offset = e.offset := congrArg Place.offset hp
  rw [Cursor.nextPlace, hfile, hoffset, hs]
  rfl

end Cursor

/-- A position has come no less far than another: it is at a later place, or at the same and
counts no less. -/
def Position.Advance (p q : Position) : Prop :=
  p.place.before q.place = true ∨ p.place = q.place ∧
    (p.eventsDone.toNat < q.eventsDone.toNat ∨
      p.eventsDone.toNat = q.eventsDone.toNat ∧ p.row.toNat ≤ q.row.toNat)

theorem Position.Advance.refl (p : Position) : p.Advance p :=
  .inr ⟨rfl, .inr ⟨rfl, Nat.le_refl _⟩⟩

namespace Cursor

variable {c c' : Cursor} {e : LogEvent} {σ σ' : Station} {log : Log}

/-- The events of a transaction that are done can be counted, and one more. -/
theorem length_done_lt (hlog : log.WellFormed) (hon : σ.On log) {o c : LogEvent}
    {done todo : List LogEvent} {e : LogEvent} (hs : σ.spot = .body o done e todo c) :
    done.length + 1 < UInt32.size := by
  obtain ⟨pre, hpre⟩ := hon.split
  have hb := hlog.bounded o (done ++ e :: todo) c (by simp [hpre, hs, Spot.items])
  simp only [List.length_append, List.length_cons] at hb
  omega

theorem toNat_events_add (hlog : log.WellFormed) (hon : σ.On log) (h : c.At σ) {o cl : LogEvent}
    {done todo : List LogEvent} {e : LogEvent} (hs : σ.spot = .body o done e todo cl) :
    (c.restart.eventsDone + 1).toNat = done.length + 1 := by
  have hlt := length_done_lt hlog hon hs
  have he := h.events
  rw [hs] at he
  simp only [Spot.done] at he
  rw [UInt32.toNat_add, he, UInt32.toNat_one]
  exact Nat.mod_eq_of_lt hlt

/-- The cursor goes with the reader. -/
theorem At.moves (hlog : log.WellFormed) (hon : σ.On log) {a : Call} (h : c.At σ)
    (hm : σ.Moves a σ') : (c.hear a).At σ' := by
  cases hm with
  | enterSingle =>
    rw [hear_enter_idle h.phase]
    refine At.publish ⟨h.phase, rfl, rfl, .inl rfl, fun f hf => ?_⟩
    cases hf
    exact ⟨rfl, rfl⟩
  | enterOpening =>
    rw [hear_enter_idle h.phase]
    refine At.publish ⟨h.phase, rfl, rfl, .inl rfl, fun f hf => ?_⟩
    cases hf
    exact ⟨rfl, rfl⟩
  | begin =>
    rw [hear_begin]
    refine At.publish ⟨rfl, (h.hand _ rfl).1, rfl, .inl rfl, fun f hf => ?_⟩
    cases hf
  | enterBody =>
    rw [hear_enter_inTransaction h.phase]
    refine ⟨h.phase, h.place, h.events, .inl (h.row_eq_zero id), fun f hf => ?_⟩
    cases hf
    exact ⟨rfl, rfl⟩
  | enterClosing =>
    rw [hear_enter_inTransaction h.phase]
    refine ⟨h.phase, h.place, h.events, .inl (h.row_eq_zero id), fun f hf => ?_⟩
    cases hf
    exact ⟨rfl, rfl⟩
  | rowSingle hj =>
    rw [hear_row]
    exact At.publish ⟨h.phase, h.place, h.events, .inr ⟨trivial, toNat_rowsDone hj⟩, h.hand⟩
  | rowBody hj =>
    rw [hear_row]
    exact At.publish ⟨h.phase, h.place, h.events, .inr ⟨trivial, toNat_rowsDone hj⟩, h.hand⟩
  | finishSingle =>
    rw [hear_finish_idle h.phase]
    refine At.publish ⟨h.phase, h.nextPlace rfl, h.events, .inl rfl, fun f hf => ?_⟩
    cases hf
  | finishBody =>
    rw [hear_finish_inTransaction h.phase]
    refine At.publish ⟨h.phase, h.place, ?_, .inl rfl, fun f hf => ?_⟩
    · rw [toNat_events_add hlog hon h rfl]
      simp [Spot.done]
    · cases hf
  | passBody =>
    rw [hear_finish_inTransaction h.phase]
    refine At.publish ⟨h.phase, h.place, ?_, .inl rfl, fun f hf => ?_⟩
    · rw [toNat_events_add hlog hon h rfl]
      simp [Spot.done]
    · cases hf
  | commit =>
    rw [hear_commit]
    refine At.publish ⟨rfl, h.nextPlace rfl, rfl, .inl rfl, fun f hf => ?_⟩
    cases hf

/-! ## Going forward -/

/-- Between two items nothing is counted, so the next event, which lies no earlier, is no step
back. -/
theorem At.advance_upTo {p q : Place} {k j : Nat} {rest : Log} {r : Position}
    (h : c.At ⟨.between p, k, j, rest⟩) (hpq : p.upTo q = true) (hr : r.place = q) :
    c.restart.Advance r := by
  have hp : c.restart.place = p := h.place
  have hevents : c.restart.eventsDone.toNat = 0 := h.events
  have hrow : c.restart.row.toNat = 0 := h.row_eq_zero id
  rcases Place.upTo_iff.1 hpq with rfl | hb
  · refine .inr ⟨hp.trans hr.symm, ?_⟩
    rw [hevents, hrow]
    rcases Nat.eq_zero_or_pos r.eventsDone.toNat with hz | hpos
    · exact .inr ⟨hz.symm, Nat.zero_le _⟩
    · exact .inl hpos
  · refine .inl ?_
    rw [hp, hr]
    exact hb

theorem At.row_le_rowsDone {j : Nat} (h : c.At σ) (hr : σ.row = j) (hj : j < e.rows.toNat) :
    c.restart.row.toNat ≤ (rowsDone e j).toNat := by
  rw [toNat_rowsDone hj]
  rcases h.row with h₀ | ⟨-, he⟩
  · omega
  · omega

/-- A call never takes the restart position back. -/
theorem At.advance (hlog : log.WellFormed) (hon : σ.On log) {a : Call} (h : c.At σ)
    (hm : σ.Moves a σ') : c.restart.Advance (c.hear a).restart := by
  cases hm with
  | @enterSingle p e k j rest =>
    rw [hear_enter_idle h.phase, restart_publish]
    exact h.advance_upTo (hon.base_upTo rfl) rfl
  | @enterOpening p o todo cl k j rest =>
    rw [hear_enter_idle h.phase, restart_publish]
    exact h.advance_upTo (hon.base_upTo rfl) rfl
  | begin =>
    rw [hear_begin, restart_publish]
    refine .inr ⟨h.place.trans (h.hand _ rfl).1.symm, .inr ⟨h.events, ?_⟩⟩
    exact Nat.le_of_eq (h.row_eq_zero id)
  | enterBody =>
    rw [hear_enter_inTransaction h.phase]
    exact .refl _
  | enterClosing =>
    rw [hear_enter_inTransaction h.phase]
    exact .refl _
  | rowSingle hj =>
    rw [hear_row, restart_publish]
    refine .inr ⟨rfl, .inr ⟨rfl, ?_⟩⟩
    exact h.row_le_rowsDone rfl hj
  | rowBody hj =>
    rw [hear_row, restart_publish]
    refine .inr ⟨rfl, .inr ⟨rfl, ?_⟩⟩
    exact h.row_le_rowsDone rfl hj
  | finishSingle =>
    rw [hear_finish_idle h.phase, restart_publish]
    obtain ⟨pre, hs⟩ := hon.split
    have hb := hlog.first_before_last hs
    refine .inl ?_
    rw [h.place, h.nextPlace rfl]
    exact hb
  | finishBody =>
    rw [hear_finish_inTransaction h.phase, restart_publish]
    refine .inr ⟨rfl, .inl ?_⟩
    rw [toNat_events_add hlog hon h rfl, h.events]
    exact Nat.lt_succ_self _
  | passBody =>
    rw [hear_finish_inTransaction h.phase, restart_publish]
    refine .inr ⟨rfl, .inl ?_⟩
    rw [toNat_events_add hlog hon h rfl, h.events]
    exact Nat.lt_succ_self _
  | commit =>
    rw [hear_commit, restart_publish]
    obtain ⟨pre, hs⟩ := hon.split
    have hb := hlog.first_before_last hs
    refine .inl ?_
    rw [h.place, h.nextPlace rfl]
    exact hb

/-! ## Beside the calls -/

/-- Nothing changes of how far the cursor says that reading has come. -/
structure Quiet (c c' : Cursor) : Prop where
  phase : c'.phase = c.phase
  place : c'.restart.place = c.restart.place
  events : c'.restart.eventsDone = c.restart.eventsDone
  row : c'.restart.row = c.restart.row
  file : c'.origin.file = c.origin.file
  offset : c'.origin.offset = c.origin.offset
  size : c'.eventSize = c.eventSize
  awaited : c'.awaited = c.awaited

theorem Quiet.note (h : c.Settled) {op : Operation} (hop : op.IsNote) :
    c.Quiet (c.perform op).1 := by
  have ha := awaited_perform h op
  cases op with
  | notify n => exact hop.elim
  | setExecuted set => exact hop.elim
  | enterSnapshot => exact hop.elim
  | leaveSnapshot => exact hop.elim
  | markSnapshotEnd => exact ⟨rfl, rfl, rfl, rfl, rfl, rfl, rfl, rfl⟩
  | noteTime time =>
    simp only [perform, noteTime, restart_publish] at ha ⊢
    refine ⟨phase_publish _, ?_, ?_, ?_, ?_, ?_, eventSize_publish _, ha.trans h.awaited_eq.symm⟩
    all_goals simp only [restart_publish, origin_publish]
  | noteDatabase database => exact ⟨rfl, rfl, rfl, rfl, rfl, rfl, rfl, rfl⟩
  | noteTable database table => exact ⟨rfl, rfl, rfl, rfl, rfl, rfl, rfl, rfl⟩
  | noteThread thread => exact ⟨rfl, rfl, rfl, rfl, rfl, rfl, rfl, rfl⟩
  | noteQuery query => exact ⟨rfl, rfl, rfl, rfl, rfl, rfl, rfl, rfl⟩

theorem Quiet.announce (c : Cursor) (id set : String) : c.Quiet (c.announce id set).1 := by
  unfold Cursor.announce
  split <;> exact ⟨rfl, rfl, rfl, rfl, rfl, rfl, rfl, rfl⟩

theorem At.quiet (h : c.At σ) (hq : c.Quiet c') : c'.At σ := by
  refine ⟨hq.phase.trans h.phase, hq.place.trans h.place, ?_, ?_, ?_⟩
  · rw [hq.events]
    exact h.events
  · rw [hq.row]
    exact h.row
  · rw [hq.file, hq.offset, hq.size]
    exact h.hand

theorem Quiet.advance (hq : c.Quiet c') : c.restart.Advance c'.restart := by
  refine .inr ⟨hq.place.symm, .inr ⟨?_, ?_⟩⟩
  · rw [hq.events]
  · rw [hq.row]

theorem At.jumpTo {p : Place} {k j : Nat} {rest : Log} (h : c.At ⟨.between p, k, j, rest⟩)
    (file : String) (offset : UInt64) :
    (c.jumpTo file offset).At ⟨.between ⟨file, offset⟩, k, j, rest⟩ :=
  At.publish ⟨h.phase, rfl, rfl, .inl rfl, fun f hf => by cases hf⟩

theorem position_announce (c : Cursor) (id set : String) :
    (c.announce id set).1.position = c.position := by
  unfold Cursor.announce
  split <;> rfl

/-- Where reading begins. -/
theorem StartsAt.stands {p : Position} (h : c.StartsAt p) (k j : Nat) (rest : Log) :
    c.At ⟨.between p.place, k, j, rest⟩ := by
  refine ⟨h.phase, ?_, ?_, .inl ?_, fun f hf => by cases hf⟩
  · rw [h.restart]
    rfl
  · rw [h.restart]
    rfl
  · rw [h.restart]
    rfl

end Cursor

/-- A reader that is about to enter an event outside of a transaction is between two items. -/
theorem Station.between_of_ahead {σ : Station} {e : LogEvent} {calls : List Call}
    (h : σ.ahead = .enter e :: calls) (hp : σ.spot.phase = .idle) :
    ∃ p k j item rest, σ = ⟨.between p, k, j, item :: rest⟩ ∧ item.first = e := by
  obtain ⟨σ', hm, -⟩ := exists_moves h
  cases hm with
  | enterSingle => exact ⟨_, _, _, _, _, rfl, rfl⟩
  | enterOpening => exact ⟨_, _, _, _, _, rfl, rfl⟩
  | enterBody => cases hp
  | enterClosing => cases hp

end BinlogCursor
