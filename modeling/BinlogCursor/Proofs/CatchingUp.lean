/-
What a cursor awaits after a restart: the station that reading had come to before it.

`Held.moves`: at every station, what is published is what is done of the item at hand
(`Held.published`), whether the cursor counted it itself or was restored with it.
-/
import BinlogCursor.Proofs.Following

namespace BinlogCursor

/-! ## What is to be passed over -/

/-- So many events, and so many rows of the one behind them, lie within these events. -/
def Within (events : List LogEvent) (k j : Nat) : Prop :=
  k ≤ events.length ∧ (k = events.length → j = 0)

/-- So many events, and so many rows of the one behind them, lie within an item. -/
def LogItem.Holds (item : LogItem) (k j : Nat) : Prop :=
  match item with
  | single _ => k = 0
  | transaction _ body _ => Within body k j

namespace Station

/-- What is to be passed over, and what is done of the next event, lies within the item at hand. -/
def Due (σ : Station) : Prop :=
  match σ.spot with
  | .between p => (σ.events = 0 ∧ σ.row = 0) ∨
    ∃ item rest, σ.rest = item :: rest ∧ p = item.first.place ∧ item.Holds σ.events σ.row
  | .single _ => σ.events = 0
  | spot => Within spot.todo σ.events σ.row

variable {log : Log} {σ σ' : Station}

theorem Due.moves {a : Call} (h : σ.Due) (hm : Moves σ a σ') : σ'.Due := by
  cases hm with
  | enterSingle =>
    rcases h with ⟨hk, -⟩ | ⟨item, rest, hs, -, hh⟩
    · exact hk
    · cases hs
      exact hh
  | enterOpening =>
    rcases h with ⟨hk, hj⟩ | ⟨item, rest, hs, -, hh⟩
    · exact ⟨Nat.le_trans (Nat.le_of_eq hk) (Nat.zero_le _), fun _ => hj⟩
    · cases hs
      exact hh
  | begin => exact h
  | enterBody => exact h
  | enterClosing => exact h
  | rowSingle => exact h
  | rowBody => exact ⟨Nat.zero_le _, fun hl => absurd hl (by simp [Spot.todo])⟩
  | finishSingle => exact .inl ⟨h, rfl⟩
  | finishBody => exact ⟨Nat.zero_le _, fun _ => rfl⟩
  | passBody =>
    obtain ⟨hle, hj⟩ := h
    simp only [Spot.todo, List.length_cons] at hle hj
    exact ⟨by simp only [Spot.todo]; omega, fun hl => hj (by simp only [Spot.todo] at hl; omega)⟩
  | commit =>
    obtain ⟨hle, hj⟩ := h
    have hk := Nat.le_zero.1 hle
    exact .inl ⟨hk, hj hk⟩

/-- What is done of an item lies within it. -/
theorem Due.resumed (h : σ.Due) : σ.resumed.Due := by
  obtain ⟨spot, k, j, rest⟩ := σ
  have whole : ∀ (done todo : List LogEvent), Within todo k j →
      Within (done ++ todo) (done.length + k) j := fun done todo ht => by
    refine ⟨?_, fun he => ht.2 ?_⟩
    · rw [List.length_append]
      exact Nat.add_le_add_left ht.1 _
    · rw [List.length_append] at he
      exact Nat.add_left_cancel he
  cases spot with
  | between p =>
    simp only [Station.resumed, Spot.done, Spot.items, Spot.base, List.length_nil, Nat.zero_add,
      List.nil_append]
    exact h
  | single e =>
    refine .inr ⟨.single e, rest, rfl, rfl, ?_⟩
    show (Spot.single e).done.length + k = 0
    simp only [Spot.done, List.length_nil, Nat.zero_add]
    exact h
  | opening o todo c => exact .inr ⟨_, rest, rfl, rfl, whole [] todo h⟩
  | inside o done todo c => exact .inr ⟨_, rest, rfl, rfl, whole done todo h⟩
  | body o done e todo c => exact .inr ⟨_, rest, rfl, rfl, whole done (e :: todo) h⟩
  | closing o done c =>
    have hw := whole done [] h
    rw [List.append_nil] at hw
    exact .inr ⟨_, rest, rfl, rfl, hw⟩

end Station

/-! ## What is awaited -/

namespace Cursor

variable {c c' : Cursor} {log : Log} {σ σ' : Station}

/-- What the cursor awaits, if it awaits anything, is the station; else it counted so far itself. -/
structure Held (c : Cursor) (σ : Station) : Prop where
  counted : c.awaited = none → σ.events = 0 ∧ c.restart.row.toNat = σ.row
  restored : ∀ r, c.awaited = some r → r.place = σ.spot.base ∧
    r.eventsDone.toNat = σ.spot.done.length + σ.events ∧ r.rowsDone.toNat = σ.row ∧
    c.restart.row.toNat = 0

/-- What is published is what is done of the item at hand. -/
theorem Held.published (hh : c.Held σ) (h : c.At σ) (hs : c.Settled) :
    c.published.place = σ.spot.base ∧
      c.published.eventsDone.toNat = σ.spot.done.length + σ.events ∧
      c.published.row.toNat = σ.row := by
  rw [hs.published]
  cases ha : c.awaited with
  | none =>
    obtain ⟨hk, hrow⟩ := hh.counted ha
    refine ⟨h.place, ?_, hrow⟩
    rw [hk, Nat.add_zero]
    exact h.events
  | some r =>
    obtain ⟨-, hevents, hrow, -⟩ := hh.restored r ha
    exact ⟨h.place, hevents, hrow⟩

/-- Reading has come as far as what was awaited, so the cursor counts itself. -/
theorem Held.of_reached (ha : c'.awaited = c.awaited.filter (·.isBeyond c'.restart))
    (hk : σ'.events = 0) (hrow : c'.restart.row.toNat = σ'.row)
    (hreach : ∀ r, c.awaited = some r → ¬ r.isBeyond c'.restart = true) : c'.Held σ' := by
  have hnone : c'.awaited = none := by
    rw [ha]
    cases hr : c.awaited with
    | none => rfl
    | some r => rw [Option.filter_some, if_neg (hreach r hr)]
  exact ⟨fun _ => ⟨hk, hrow⟩, fun r hr => by rw [hnone] at hr; cases hr⟩

/-- Nothing new is done, so what was awaited is awaited still, or reading has come to it. -/
theorem Held.of_kept (ha : c'.awaited = c.awaited.filter (·.isBeyond c'.restart))
    (h : c'.At σ') (hrow : c'.restart.row.toNat = 0)
    (hnone : c.awaited = none → σ'.events = 0 ∧ σ'.row = 0)
    (hsome : ∀ r, c.awaited = some r → r.place = σ'.spot.base ∧
      r.eventsDone.toNat = σ'.spot.done.length + σ'.events ∧ r.rowsDone.toNat = σ'.row) :
    c'.Held σ' := by
  cases hr : c.awaited with
  | none =>
    obtain ⟨hk, hj⟩ := hnone hr
    have hnone' : c'.awaited = none := by rw [ha, hr]; rfl
    exact ⟨fun _ => ⟨hk, hrow.trans hj.symm⟩, fun r hr' => by rw [hnone'] at hr'; cases hr'⟩
  | some r =>
    obtain ⟨hplace, hevents, hrows⟩ := hsome r hr
    rw [hr, Option.filter_some] at ha
    by_cases hb : r.isBeyond c'.restart = true
    · rw [if_pos hb] at ha
      refine ⟨fun hn => ?_, fun r' hr' => ?_⟩
      · rw [ha] at hn
        cases hn
      · rw [ha] at hr'
        cases hr'
        exact ⟨hplace, hevents, hrows, hrow⟩
    · -- Nothing is awaited any more, so nothing is left to pass over.
      rw [if_neg hb] at ha
      rw [Progress.isBeyond_iff] at hb
      have hle : ¬ (σ'.spot.done.length < σ'.spot.done.length + σ'.events ∨
          σ'.spot.done.length = σ'.spot.done.length + σ'.events ∧ 0 < σ'.row) := fun hlt =>
        hb ⟨h.place.trans hplace.symm, by rwa [hevents, hrows, hrow, h.events]⟩
      refine ⟨fun _ => ?_, fun r' hr' => ?_⟩
      · rw [hrow]
        omega
      · rw [ha] at hr'
        cases hr'

/-- A cursor between two items that awaits something stands at the next of them. -/
theorem Held.place_eq_first {p : Place} {k j : Nat} {item : LogItem} {rest : Log}
    (hh : c.Held ⟨.between p, k, j, item :: rest⟩) (h : c.At ⟨.between p, k, j, item :: rest⟩)
    (hs : c.Settled) (hd : Station.Due ⟨.between p, k, j, item :: rest⟩) {r : Progress}
    (hr : c.awaited = some r) : p = item.first.place := by
  obtain ⟨-, hevents, hrows, hrow⟩ := hh.restored r hr
  rcases hd with ⟨hk, hj⟩ | ⟨item', rest', he, hp, -⟩
  · obtain ⟨-, hlt⟩ := Progress.isBeyond_iff.1 (hs.beyond r hr)
    rw [h.events, hevents, hrows, hrow, hk, hj] at hlt
    omega
  · cases he
    exact hp

/-- Where nothing new is done, what was awaited stays the same. -/
theorem Held.stays (hh : c.Held σ) (h : c.At σ) (hat : ¬ σ.spot.AtRows)
    (ha : c'.awaited = c.awaited.filter (·.isBeyond c'.restart)) (h' : c'.At σ')
    (hrow : c'.restart.row.toNat = 0)
    (hbase : ∀ r, c.awaited = some r → σ.spot.base = σ'.spot.base)
    (hdone : σ'.spot.done = σ.spot.done) (hk : σ'.events = σ.events) (hj : σ'.row = σ.row) :
    c'.Held σ' := by
  refine .of_kept ha h' hrow (fun hn => ?_) fun r hr => ?_
  · obtain ⟨hk', hrow'⟩ := hh.counted hn
    exact ⟨hk.trans hk', hj.trans (hrow'.symm.trans (h.row_eq_zero hat))⟩
  · obtain ⟨hplace, hevents, hrows, -⟩ := hh.restored r hr
    rw [hdone, hk, hj]
    exact ⟨hplace.trans (hbase r hr), hevents, hrows⟩

/-- Where reading enters an item nothing new is done. -/
theorem Held.enter {p : Place} {k j : Nat} {item : LogItem} {rest : Log}
    (hh : c.Held ⟨.between p, k, j, item :: rest⟩) (h : c.At ⟨.between p, k, j, item :: rest⟩)
    (hs : c.Settled) (hd : Station.Due ⟨.between p, k, j, item :: rest⟩)
    (ha : c'.awaited = c.awaited.filter (·.isBeyond c'.restart)) (h' : c'.At σ')
    (hrow : c'.restart.row.toNat = 0) (hbase : σ'.spot.base = item.first.place)
    (hdone : σ'.spot.done = []) (hk : σ'.events = k) (hj : σ'.row = j) : c'.Held σ' :=
  hh.stays h id ha h' hrow (fun _ hr => (hh.place_eq_first h hs hd hr).trans hbase.symm)
    hdone hk hj

/-- Behind an item what was awaited within it is not awaited any more. -/
theorem Held.leave (hlog : log.WellFormed) (hon : σ.On log) (hh : c.Held σ) {item : LogItem}
    (hi : σ.spot.items = [item]) (hb : σ.spot.base = item.first.place)
    (ha : c'.awaited = c.awaited.filter (·.isBeyond c'.restart))
    (hplace : c'.restart.place = item.last.next) (hk : σ'.events = 0)
    (hrow : c'.restart.row.toNat = σ'.row) : c'.Held σ' := by
  refine .of_reached ha hk hrow fun r hr hbeyond => ?_
  -- Else the item would begin where it ends.
  obtain ⟨pre, hs⟩ := hon.split
  rw [hi] at hs
  have hlt := hlog.first_before_last hs
  have heq : item.first.place = item.last.next := by
    rw [← hplace, (Progress.isBeyond_iff.1 hbeyond).1, (hh.restored r hr).1, hb]
  rw [heq, Place.before_irrefl] at hlt
  cases hlt

/-- Once a row is read nothing is awaited any more. -/
theorem Held.read {e : LogEvent} {j : Nat} (hh : c.Held σ) (h : c.At σ) (hs : c.Settled)
    (hk : σ.events = 0) (hrow : σ.row = j) (hj : j < e.rows.toNat) (hk' : σ'.events = 0)
    (hrow' : σ'.row = j + 1) : (c.hear (.row e j)).Held σ' := by
  have hdone : (c.hear (.row e j)).restart.row.toNat = j + 1 := by
    rw [hear_row, restart_publish]
    exact toNat_rowsDone hj
  have hevents : (c.hear (.row e j)).restart.eventsDone.toNat = σ.spot.done.length := by
    rw [hear_row, restart_publish]
    exact h.events
  refine .of_reached (awaited_perform hs (.notify _)) hk' (hdone.trans hrow'.symm)
    fun r hr hbeyond => ?_
  obtain ⟨-, hr₁, hr₂, -⟩ := hh.restored r hr
  have hlt := (Progress.isBeyond_iff.1 hbeyond).2
  rw [hk] at hr₁
  rw [hrow] at hr₂
  omega

/-- What the cursor awaits stays the station as reading goes on, until it counts itself. -/
theorem Held.moves (hlog : log.WellFormed) (hon : σ.On log) (hh : c.Held σ) (h : c.At σ)
    (hs : c.Settled) (hd : σ.Due) {a : Call} (hm : σ.Moves a σ') : (c.hear a).Held σ' := by
  have ha : (c.hear a).awaited = c.awaited.filter (·.isBeyond (c.hear a).restart) :=
    awaited_perform hs (.notify a.notification)
  have h' : (c.hear a).At σ' := h.moves hlog hon hm
  cases hm with
  | enterSingle =>
    refine hh.enter h hs hd ha h' ?_ rfl rfl rfl rfl
    rw [hear_enter_idle h.phase, restart_publish]
    rfl
  | enterOpening =>
    refine hh.enter h hs hd ha h' ?_ rfl rfl rfl rfl
    rw [hear_enter_idle h.phase, restart_publish]
    rfl
  | begin => exact hh.stays h id ha h' (h'.row_eq_zero id) (fun _ _ => rfl) rfl rfl rfl
  | @enterBody o done e todo cl k j rest =>
    -- The event has rows to read, but none of them is read yet.
    have hzero : (c.hear (.enter e)).restart.row.toNat = 0 := by
      rw [hear_enter_inTransaction h.phase]
      exact h.row_eq_zero id
    exact hh.stays h id ha h' hzero (fun _ _ => rfl) rfl rfl rfl
  | enterClosing => exact hh.stays h id ha h' (h'.row_eq_zero id) (fun _ _ => rfl) rfl rfl rfl
  | rowSingle hj => exact hh.read h hs hd rfl hj hd rfl
  | rowBody hj => exact hh.read h hs rfl rfl hj rfl rfl
  | finishSingle =>
    exact hh.leave hlog hon rfl rfl ha h'.place hd (h'.row_eq_zero id)
  | @finishBody o done e todo cl j rest =>
    refine .of_reached ha rfl (h'.row_eq_zero id) fun r hr hbeyond => ?_
    have hlt := (Progress.isBeyond_iff.1 hbeyond).2
    rw [h'.events, (hh.restored r hr).2.1] at hlt
    simp only [Spot.done, List.length_append, List.length_singleton] at hlt
    omega
  | @passBody o done e todo cl k j rest =>
    refine .of_kept ha h' (h'.row_eq_zero id) (fun hn => ?_) fun r hr => ?_
    · exact absurd (hh.counted hn).1 (Nat.succ_ne_zero k)
    · obtain ⟨hplace, hevents, hrows, -⟩ := hh.restored r hr
      refine ⟨hplace, ?_, hrows⟩
      rw [hevents]
      simp only [Spot.done, List.length_append, List.length_singleton]
      omega
  | commit =>
    refine hh.leave hlog hon rfl rfl ha h'.place ?_ ?_
    · exact Nat.le_zero.1 hd.1
    · rw [h'.row_eq_zero id]
      exact (hd.2 (Nat.le_zero.1 hd.1)).symm

theorem Held.quiet (hh : c.Held σ) (hq : c.Quiet c') : c'.Held σ := by
  refine ⟨fun hn => ?_, fun r hr => ?_⟩
  · rw [hq.row]
    exact hh.counted (hq.awaited ▸ hn)
  · rw [hq.row]
    exact hh.restored r (hq.awaited ▸ hr)

/-- Reading that begins at a position awaits what the position says is done. -/
theorem StartsAt.held {p : Position} (h : c.StartsAt p) (rest : Log) :
    c.Held ⟨.between p.place, p.eventsDone.toNat, p.row.toNat, rest⟩ := by
  have ha := h.awaited
  unfold progressOf at ha
  split at ha
  · next hp =>
    refine ⟨fun _ => ?_, fun r hr => ?_⟩
    · rw [h.restart, hp.1, hp.2]
      exact ⟨rfl, rfl⟩
    · rw [ha] at hr
      cases hr
  · refine ⟨fun hn => ?_, fun r hr => ?_⟩
    · rw [ha] at hn
      cases hn
    · rw [ha] at hr
      cases hr
      refine ⟨rfl, (Nat.zero_add _).symm, rfl, ?_⟩
      rw [h.restart]
      rfl

end Cursor

end BinlogCursor
