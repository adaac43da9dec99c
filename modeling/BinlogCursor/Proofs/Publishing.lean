/-
What is published, and what a restart begins with.

`perform_cases` says once how any operation ends; what all of them keep follows from it.
`Settled.perform`: after any operation, what is published is the restart position, with the
counters of the awaited progress while that lies beyond it (`awaited_perform`).
`restore_checkpoint`: what is stored of a cursor is restored as it was published, and reading
begins there (`StartsAt`).
-/
import BinlogCursor.Cursor.Lemmas
import BinlogCursor.Proofs.CheckpointText

namespace BinlogCursor

/-! ## Awaited progress -/

theorem Progress.isBeyond_iff {r : Progress} {p : Position} :
    r.isBeyond p = true ↔ p.place = r.place ∧ (p.eventsDone.toNat < r.eventsDone.toNat ∨
      p.eventsDone.toNat = r.eventsDone.toNat ∧ p.row.toNat < r.rowsDone.toNat) := by
  simp only [Progress.isBeyond, Bool.and_eq_true, Bool.or_eq_true, decide_eq_true_eq,
    beq_iff_eq, UInt32.lt_iff_toNat_lt, ← UInt32.toNat_inj]

/-- A position with the counters of some progress, if there is any. -/
def Position.shown (p : Position) : Option Progress → Position
  | none => p
  | some r => { p with eventsDone := r.eventsDone, row := r.rowsDone }

/-- One position differs from another at most in how far reading has come. -/
structure Position.Resembles (p q : Position) : Prop where
  gtids : p.gtids = q.gtids
  duringSnapshot : p.duringSnapshot = q.duringSnapshot
  serverId : p.serverId = q.serverId
  seconds : p.seconds = q.seconds

theorem Position.shown_resembles (p : Position) (r : Option Progress) :
    (p.shown r).Resembles p := by
  cases r <;> exact ⟨rfl, rfl, rfl, rfl⟩

theorem Position.Resembles.trans {p q r : Position} (hpq : p.Resembles q) (hqr : q.Resembles r) :
    p.Resembles r :=
  ⟨hpq.gtids.trans hqr.gtids, hpq.duringSnapshot.trans hqr.duringSnapshot,
    hpq.serverId.trans hqr.serverId, hpq.seconds.trans hqr.seconds⟩

theorem Position.Resembles.symm {p q : Position} (h : p.Resembles q) : q.Resembles p :=
  ⟨h.gtids.symm, h.duringSnapshot.symm, h.serverId.symm, h.seconds.symm⟩

namespace Cursor

theorem awaited_publish (c : Cursor) :
    c.publish.awaited = c.awaited.filter (·.isBeyond c.restart) := by
  cases ha : c.awaited with
  | none => simp [publish, post, ha]
  | some r =>
    by_cases hr : r.isBeyond c.restart = true
    · rw [Option.filter_some, if_pos hr]
      simp [publish, post, ha, hr]
    · rw [Option.filter_some, if_neg hr]
      simp [publish, post, ha, hr]

theorem published_publish (c : Cursor) :
    c.publish.published = c.restart.shown c.publish.awaited := by
  cases ha : c.awaited with
  | none => simp [publish, post, ha, Position.shown]
  | some r =>
    by_cases hr : r.isBeyond c.restart = true
    · simp [publish, post, ha, hr, Position.shown]
    · simp [publish, post, ha, hr, Position.shown]

/-- What is published is up to date. -/
structure Settled (c : Cursor) : Prop where
  published : c.published = c.restart.shown c.awaited
  beyond : ∀ r, c.awaited = some r → r.isBeyond c.restart = true

theorem settled_publish (c : Cursor) : c.publish.Settled where
  published := by rw [published_publish, restart_publish]
  beyond r hr := by
    rw [awaited_publish, Option.filter_eq_some_iff] at hr
    rw [restart_publish]
    exact hr.2

/-- Apart from how far reading has come, the published position is the restart position. -/
theorem Settled.resembles {c : Cursor} (h : c.Settled) : c.position.Resembles c.restart := by
  rw [position, h.published]
  exact c.restart.shown_resembles c.awaited

/-- Nothing is awaited any more once the restart position is as far. -/
theorem Settled.awaited_eq {c : Cursor} (h : c.Settled) :
    c.awaited = c.awaited.filter (·.isBeyond c.restart) := by
  cases ha : c.awaited with
  | none => rfl
  | some r => rw [Option.filter_some, if_pos (h.beyond r ha)]

theorem takeAnnounced_eq (c : Cursor) :
    c.takeAnnounced = { c with
      announced := none
      restart := { c.restart with gtids := c.announced.or c.restart.gtids } } := by
  unfold takeAnnounced
  cases ha : c.announced with
  | none =>
    cases c
    cases ha
    rfl
  | some g => rfl

/-- What operations leave alone until they publish. Outside of a transaction they count no
events. -/
structure Leaves (c c' : Cursor) : Prop where
  awaited : c'.awaited = c.awaited
  restoredFrom : c'.restoredFrom = c.restoredFrom
  serverId : c'.restart.serverId = c.restart.serverId
  uncounted : (c.phase = .idle → c.restart.eventsDone = 0) →
    c'.phase = .idle → c'.restart.eventsDone = 0

theorem finishEvent_eq_publish (c : Cursor) :
    ∃ x : Cursor, c.finishEvent = x.publish ∧ c.Leaves x := by
  refine ⟨_, rfl, ?_⟩
  cases hp : c.phase with
  | inTransaction => exact ⟨rfl, rfl, rfl, fun _ hidle => by cases hidle⟩
  | idle =>
    simp only [takeAnnounced_eq]
    exact ⟨rfl, rfl, rfl, fun hu _ => hu hp⟩

theorem closeTransaction_eq_publish (c : Cursor) :
    ∃ x : Cursor, c.closeTransaction = x.publish ∧ c.Leaves x := by
  refine ⟨_, rfl, ?_⟩
  simp only [takeAnnounced_eq]
  exact ⟨rfl, rfl, rfl, fun _ _ => rfl⟩

/-- An operation publishes in the end, or it changes nothing that is published. -/
theorem perform_cases (c : Cursor) (op : Operation) :
    (∃ x : Cursor, (c.perform op).1 = x.publish ∧ c.Leaves x) ∨
      ((c.perform op).1.restart = c.restart ∧ (c.perform op).1.published = c.published ∧
        (c.perform op).1.board = c.board ∧ c.Leaves (c.perform op).1) := by
  cases op with
  | notify n =>
    cases n with
    | jump file offset => exact .inl ⟨_, rfl, rfl, rfl, rfl, fun _ _ => rfl⟩
    | event file offset size =>
      simp only [perform, apply, enterEvent]
      split
      · exact .inl ⟨_, rfl, rfl, rfl, rfl, fun _ _ => rfl⟩
      · exact .inr ⟨rfl, rfl, rfl, rfl, rfl, rfl, id⟩
    | begin => exact .inl ⟨_, rfl, rfl, rfl, rfl, fun _ _ => rfl⟩
    | row index total => exact .inl ⟨_, rfl, rfl, rfl, rfl, id⟩
    | finish => exact .inl c.finishEvent_eq_publish
    | commit => exact .inl c.closeTransaction_eq_publish
    | gtid id set =>
      simp only [perform, apply, announce]
      split <;> exact .inr ⟨rfl, rfl, rfl, rfl, rfl, rfl, fun hu => hu⟩
  | setExecuted set =>
    simp only [perform, setExecuted]
    split
    · exact .inl ⟨_, rfl, rfl, rfl, rfl, id⟩
    · exact .inr ⟨rfl, rfl, rfl, rfl, rfl, rfl, id⟩
    · exact .inr ⟨rfl, rfl, rfl, rfl, rfl, rfl, id⟩
  | enterSnapshot => exact .inl ⟨_, rfl, rfl, rfl, rfl, id⟩
  | markSnapshotEnd => exact .inr ⟨rfl, rfl, rfl, rfl, rfl, rfl, id⟩
  | leaveSnapshot => exact .inl ⟨_, rfl, rfl, rfl, rfl, id⟩
  | noteTime time => exact .inl ⟨_, rfl, rfl, rfl, rfl, id⟩
  | noteDatabase database => exact .inr ⟨rfl, rfl, rfl, rfl, rfl, rfl, id⟩
  | noteTable database table => exact .inr ⟨rfl, rfl, rfl, rfl, rfl, rfl, id⟩
  | noteThread thread => exact .inr ⟨rfl, rfl, rfl, rfl, rfl, rfl, id⟩
  | noteQuery query => exact .inr ⟨rfl, rfl, rfl, rfl, rfl, rfl, id⟩

/-- Progress is awaited until the restart position is as far, and then no more. -/
theorem awaited_perform {c : Cursor} (h : c.Settled) (op : Operation) :
    (c.perform op).1.awaited = c.awaited.filter (·.isBeyond (c.perform op).1.restart) := by
  rcases perform_cases c op with ⟨x, he, hx⟩ | ⟨hr, -, -, hx⟩
  · rw [he, awaited_publish, restart_publish, hx.awaited]
  · rw [hx.awaited, hr]
    exact h.awaited_eq

theorem Settled.perform {c : Cursor} (h : c.Settled) (op : Operation) :
    (c.perform op).1.Settled := by
  rcases perform_cases c op with ⟨x, he, -⟩ | ⟨hr, hp, -, hx⟩
  · rw [he]
    exact settled_publish x
  · exact ⟨by rw [hp, hr, hx.awaited, h.published], fun r hr' => by
      rw [hr]
      exact h.beyond r (hx.awaited ▸ hr')⟩

end Cursor

/-! ## What is stored -/

/-- The server that the settings name. -/
def Settings.server? (s : Settings) : Option UInt64 :=
  if s.serverId = 0 then none else some s.serverId

theorem Settings.server?_ne_zero (s : Settings) : s.server? ≠ some 0 := by
  unfold server?
  split
  · simp
  · next h => simpa using h

/-- With another server, and with other counters, a position can be stored as well. -/
theorem Position.Storable.of_eq {p q : Position} (h : p.Storable) (hg : q.gtids = p.gtids)
    (hs : q.serverId = p.serverId) : q.Storable :=
  ⟨fun g he => h.gtids g (hg ▸ he), hs ▸ h.serverId⟩

theorem Position.Storable.shown {p : Position} (h : p.Storable) (r : Option Progress) :
    (p.shown r).Storable := by
  cases r <;> exact h.of_eq rfl rfl

namespace Cursor

/-- What a cursor keeps can be stored, and names the server of the settings if no other. -/
structure Sound (settings : Settings) (c : Cursor) : Prop where
  storable : c.restart.Storable
  announced : ∀ g, c.announced = some g → g.Present
  server : c.restart.serverId.or settings.server? = c.restart.serverId

variable {settings : Settings}

theorem Sound.of_eq {c c' : Cursor} (h : c.Sound settings)
    (hg : c'.restart.gtids = c.restart.gtids) (hs : c'.restart.serverId = c.restart.serverId)
    (ha : c'.announced = c.announced) : c'.Sound settings :=
  ⟨h.storable.of_eq hg hs, fun g he => h.announced g (ha ▸ he), by rw [hs]; exact h.server⟩

/-- So it stays when another set is executed, if that can be stored. -/
theorem Sound.of_gtids {c c' : Cursor} {g : Option GtidSet} (h : c.Sound settings)
    (hg : c'.restart.gtids = g.or c.restart.gtids) (hp : ∀ s, g = some s → s.Present)
    (hs : c'.restart.serverId = c.restart.serverId)
    (ha : ∀ s, c'.announced = some s → c.announced = some s) : c'.Sound settings := by
  refine ⟨⟨fun s he => ?_, by rw [hs]; exact h.storable.serverId⟩,
    fun s he => h.announced s (ha s he), by rw [hs]; exact h.server⟩
  rw [hg] at he
  cases g with
  | none => exact h.storable.gtids s he
  | some t =>
    cases he
    exact hp s rfl

theorem Sound.takeAnnounced {c : Cursor} (h : c.Sound settings) :
    c.takeAnnounced.Sound settings := by
  rw [takeAnnounced_eq]
  exact h.of_gtids rfl h.announced rfl fun s he => by cases he

theorem Sound.publish {c : Cursor} (h : c.Sound settings) : c.publish.Sound settings :=
  h.of_eq (by rw [restart_publish]) (by rw [restart_publish]) (announced_publish c)

theorem Sound.perform {c : Cursor} (h : c.Sound settings) (op : Operation) :
    (c.perform op).1.Sound settings := by
  cases op with
  | notify n =>
    cases n with
    | jump file offset => exact Sound.publish (h.of_eq rfl rfl rfl)
    | event file offset size =>
      simp only [Cursor.perform, apply, enterEvent]
      split
      · exact Sound.publish (h.of_eq rfl rfl rfl)
      · exact h.of_eq rfl rfl rfl
    | begin => exact Sound.publish (h.of_eq rfl rfl rfl)
    | row index total => exact Sound.publish (h.of_eq rfl rfl rfl)
    | finish =>
      refine Sound.publish ?_
      split
      · exact h.of_eq rfl rfl rfl
      · refine Sound.of_eq (Sound.takeAnnounced ?_) rfl rfl rfl
        exact h.of_eq rfl rfl rfl
    | commit =>
      refine Sound.publish (Sound.of_eq (Sound.takeAnnounced ?_) rfl rfl rfl)
      exact h.of_eq rfl rfl rfl
    | gtid id set =>
      simp only [Cursor.perform, apply, announce]
      split
      · next g hg =>
        exact ⟨h.storable, fun s he => by
          cases he
          exact .of_parseUnlessBlank hg, h.server⟩
      · exact h.of_eq rfl rfl rfl
      · exact h.of_eq rfl rfl rfl
  | setExecuted set =>
    simp only [Cursor.perform, setExecuted]
    split
    · next g hg =>
      refine Sound.publish (h.of_gtids (g := some g) rfl (fun s he => ?_) rfl fun s he => he)
      cases he
      exact .of_parseUnlessBlank hg
    · exact h
    · exact h
  | enterSnapshot => exact Sound.publish (h.of_eq rfl rfl rfl)
  | markSnapshotEnd => exact h.of_eq rfl rfl rfl
  | leaveSnapshot => exact Sound.publish (h.of_eq rfl rfl rfl)
  | noteTime time => exact Sound.publish (h.of_eq rfl rfl rfl)
  | noteDatabase database => exact h.of_eq rfl rfl rfl
  | noteTable database table => exact h.of_eq rfl rfl rfl
  | noteThread thread => exact h.of_eq rfl rfl rfl
  | noteQuery query => exact h.of_eq rfl rfl rfl

/-! ## Where reading begins -/

/-- A cursor with which reading begins at a position: nothing is read or announced, and what the
position says is done is awaited. -/
structure StartsAt (c : Cursor) (p : Position) : Prop where
  phase : c.phase = .idle
  restart : c.restart = { p with row := 0, eventsDone := 0 }
  published : c.published = p
  awaited : c.awaited = progressOf p
  restoredFrom : c.restoredFrom = progressOf p
  announced : c.announced = none

theorem startsAt_new (settings : Settings) (place : Place) :
    (new settings place).StartsAt { Position.start place with serverId := settings.server? } :=
  ⟨rfl, rfl, rfl, rfl, rfl, rfl⟩

/-- Progress that was restored lies beyond the place where it is restored. -/
theorem filter_progressOf (p : Position) :
    (progressOf p).filter (·.isBeyond { p with row := 0, eventsDone := 0 }) = progressOf p := by
  unfold progressOf
  split
  · rfl
  · next h =>
    rw [Option.filter_some, if_pos]
    rw [Progress.isBeyond_iff]
    refine ⟨rfl, ?_⟩
    simp only [← UInt32.toNat_inj, UInt32.toNat_zero] at h ⊢
    omega

theorem shown_progressOf (p : Position) :
    Position.shown { p with row := 0, eventsDone := 0 } (progressOf p) = p := by
  unfold progressOf
  split
  · next h =>
    cases p
    simp only [Position.shown, Position.mk.injEq, true_and, and_true] at h ⊢
    exact ⟨h.2.symm, h.1.symm⟩
  · rfl

/-- What has to be skipped is what the position says, from which a cursor was restored. -/
theorem alreadyDone_of_restoredFrom {c : Cursor} {p : Position}
    (h : c.restoredFrom = progressOf p) :
    c.eventsAlreadyDone = p.eventsDone ∧ c.rowsAlreadyDone = p.row := by
  simp only [Cursor.eventsAlreadyDone, Cursor.rowsAlreadyDone, h, progressOf]
  by_cases hp : p.eventsDone = 0 ∧ p.row = 0
  · rw [if_pos hp]
    exact ⟨hp.1.symm, hp.2.symm⟩
  · rw [if_neg hp]
    exact ⟨rfl, rfl⟩

theorem startsAt_restoreAt (settings : Settings) (p : Position) :
    (restoreAt settings p).StartsAt { p with serverId := p.serverId.or settings.server? } := by
  have hp := filter_progressOf { p with serverId := p.serverId.or settings.server? }
  have hs := shown_progressOf { p with serverId := p.serverId.or settings.server? }
  unfold restoreAt
  refine ⟨phase_publish _, restart_publish _, ?_, ?_, restoredFrom_publish _, announced_publish _⟩
  · rw [published_publish, awaited_publish]
    exact (congrArg _ hp).trans hs
  · rw [awaited_publish]
    exact hp

namespace StartsAt

variable {c : Cursor} {p : Position}

theorem settled (h : c.StartsAt p) : c.Settled := by
  refine ⟨?_, fun r hr => ?_⟩
  · rw [h.published, h.restart, h.awaited, shown_progressOf]
  · rw [h.awaited, ← filter_progressOf p, Option.filter_eq_some_iff] at hr
    rw [h.restart]
    exact hr.2

theorem sound (h : c.StartsAt p) (hp : p.Storable)
    (hs : p.serverId.or settings.server? = p.serverId) : c.Sound settings := by
  refine ⟨?_, fun g hg => ?_, ?_⟩
  · rw [h.restart]
    exact hp.of_eq rfl rfl
  · rw [h.announced] at hg
    cases hg
  · rw [h.restart]
    exact hs

theorem eventsAlreadyDone (h : c.StartsAt p) : c.eventsAlreadyDone = p.eventsDone :=
  (alreadyDone_of_restoredFrom h.restoredFrom).1

theorem rowsAlreadyDone (h : c.StartsAt p) : c.rowsAlreadyDone = p.row :=
  (alreadyDone_of_restoredFrom h.restoredFrom).2

end StartsAt

/-- A position from which reading begins can be stored, and names a server if the settings do. -/
theorem storable_startsAt (settings : Settings) {p : Position} (hp : p.Storable) :
    Position.Storable { p with serverId := p.serverId.or settings.server? } ∧
      (p.serverId.or settings.server?).or settings.server? = p.serverId.or settings.server? := by
  refine ⟨⟨hp.gtids, ?_⟩, ?_⟩
  · have hid := hp.serverId
    show p.serverId.or settings.server? ≠ some 0
    cases hs : p.serverId with
    | none => exact settings.server?_ne_zero
    | some s =>
      rw [hs] at hid
      exact hid
  · rw [Option.or_assoc, Option.or_self]

theorem storable_start (settings : Settings) (place : Place) :
    Position.Storable { Position.start place with serverId := settings.server? } :=
  ⟨fun g hg => by simp [Position.start] at hg, settings.server?_ne_zero⟩

/-- What is stored of a cursor is restored as it was published. -/
theorem restore_checkpoint {c : Cursor} (h : c.Settled) (hc : c.Sound settings) :
    restore settings c.checkpoint = .ok (restoreAt settings c.published) ∧
      (restoreAt settings c.published).StartsAt c.published := by
  have hserver : c.published.serverId = c.restart.serverId := h.resembles.serverId
  refine ⟨?_, ?_⟩
  · have hstorable : c.published.Storable := h.published ▸ hc.storable.shown c.awaited
    rw [restore, checkpoint, Position.ofCheckpoint_toCheckpoint hstorable]
    rfl
  · have hs := startsAt_restoreAt settings c.published
    rw [hserver, hc.server, ← hserver] at hs
    exact hs

end Cursor

end BinlogCursor
