/-
A cursor through a history: calls, notes, announcements, jumps and restarts.

A cursor trails its reader (`Trails`): it stands where the reader is, and what is stored of it can
be restored. If reading began outside of any transaction it also follows (`Follows`): what it
publishes is what is done of the item at hand. `Follows.restart`: reading that is restarted comes
to where it was, and calls the same from there on.
-/
import BinlogCursor.Proofs.CatchingUp

namespace BinlogCursor

/-- A cursor goes along with a reader of a log. -/
structure Trails (settings : Settings) (log : Log) (c : Cursor) (σ : Station) : Prop where
  on : σ.On log
  stands : c.At σ
  settled : c.Settled
  sound : c.Sound settings

/-- It knows what is done of the item at hand, too. -/
structure Follows (settings : Settings) (log : Log) (c : Cursor) (σ : Station) : Prop extends
    Trails settings log c σ where
  due : σ.Due
  held : c.Held σ

variable {settings : Settings} {log : Log} {c c' : Cursor} {σ σ' : Station}

/-! ## Calls -/

theorem Trails.call (h : Trails settings log c σ) (hlog : log.WellFormed) {a : Call}
    (hm : σ.Moves a σ') : Trails settings log (c.hear a) σ' where
  on := h.on.moves hlog hm
  stands := h.stands.moves hlog h.on hm
  settled := h.settled.perform (.notify a.notification)
  sound := h.sound.perform (.notify a.notification)

theorem Follows.call (h : Follows settings log c σ) (hlog : log.WellFormed) {a : Call}
    (hm : σ.Moves a σ') : Follows settings log (c.hear a) σ' where
  toTrails := h.toTrails.call hlog hm
  due := h.due.moves hm
  held := h.held.moves hlog h.on h.stands h.settled h.due hm

/-! ## Notes and announcements -/

theorem Trails.note (h : Trails settings log c σ) {op : Operation} (hop : op.IsNote) :
    Trails settings log (c.perform op).1 σ where
  on := h.on
  stands := h.stands.quiet (.note h.settled hop)
  settled := h.settled.perform op
  sound := h.sound.perform op

theorem Follows.note (h : Follows settings log c σ) {op : Operation} (hop : op.IsNote) :
    Follows settings log (c.perform op).1 σ where
  toTrails := h.toTrails.note hop
  due := h.due
  held := h.held.quiet (.note h.settled hop)

theorem Trails.announce (h : Trails settings log c σ) (id set : String) :
    Trails settings log (c.announce id set).1 σ where
  on := h.on
  stands := h.stands.quiet (.announce c id set)
  settled := h.settled.perform (.notify (.gtid id set))
  sound := h.sound.perform (.notify (.gtid id set))

theorem Follows.announce (h : Follows settings log c σ) (id set : String) :
    Follows settings log (c.announce id set).1 σ where
  toTrails := h.toTrails.announce id set
  due := h.due
  held := h.held.quiet (.announce c id set)

/-! ## Jumps -/

/-- Where the cursor publishes that reading resumes is where its reader resumes. -/
theorem Trails.place_position (h : Trails settings log c σ) : c.position.place = σ.spot.base := by
  have hp : c.position.place = c.restart.place := by
    rw [Cursor.position, h.settled.published]
    cases c.awaited <;> rfl
  exact hp.trans h.stands.place

theorem Trails.jump {p : Place} {k j : Nat} {item : LogItem} {rest : Log} {offset : UInt64}
    (h : Trails settings log c ⟨.between p, k, j, item :: rest⟩)
    (onward : c.position.place.upTo ⟨item.first.file, offset⟩ = true)
    (short : offset ≤ item.first.offset) :
    Trails settings log (c.jumpTo item.first.file offset)
      ⟨.between ⟨item.first.file, offset⟩, k, j, item :: rest⟩ where
  on := by
    have hp : c.position.place = p := h.place_position
    refine h.on.jump (hp ▸ onward) fun x hx => ?_
    obtain ⟨role, hfirst⟩ := Log.head?_entries_cons item rest
    rw [hfirst] at hx
    cases hx
    exact Place.upTo_of_offset_le short
  stands := h.stands.jumpTo item.first.file offset
  settled := h.settled.perform (.notify (.jump item.first.file offset))
  sound := h.sound.perform (.notify (.jump item.first.file offset))

/-- A reader that has something to pass over does not jump. -/
theorem Follows.jump {p : Place} {k j : Nat} {item : LogItem} {rest : Log} {offset : UInt64}
    (h : Follows settings log c ⟨.between p, k, j, item :: rest⟩)
    (onward : c.position.place.upTo ⟨item.first.file, offset⟩ = true)
    (short : offset ≤ item.first.offset) :
    Follows settings log (c.jumpTo item.first.file offset)
      ⟨.between ⟨item.first.file, offset⟩, k, j, item :: rest⟩ := by
  have ht := h.toTrails.jump onward short
  have stays : p = item.first.place → p = ⟨item.first.file, offset⟩ := fun hp => by
    have hbase : c.position.place = p := h.place_position
    exact Place.upTo_antisymm (hbase ▸ onward) (hp ▸ Place.upTo_of_offset_le short)
  refine ⟨ht, ?_, ?_⟩
  · rcases h.due with hz | ⟨item', rest', he, hp, hh⟩
    · exact .inl hz
    · cases he
      exact .inr ⟨item, rest, rfl, (stays hp).symm.trans hp, hh⟩
  · have ha := Cursor.awaited_perform h.settled (.notify (.jump item.first.file offset))
    refine h.held.stays h.stands id ha ht.stands (ht.stands.row_eq_zero id) (fun r hr => ?_)
      rfl rfl rfl
    exact stays (h.held.place_eq_first h.stands h.settled h.due hr)

/-! ## Restarts -/

theorem Cursor.StartsAt.trails {p : Position} (h : c.StartsAt p) (hp : p.Storable)
    (hs : p.serverId.or settings.server? = p.serverId) {k j : Nat} {rest : Log}
    (hon : Station.On log ⟨.between p.place, k, j, rest⟩) :
    Trails settings log c ⟨.between p.place, k, j, rest⟩ :=
  ⟨hon, h.stands k j rest, h.settled, h.sound hp hs⟩

/-- Whatever a reading begins with stands at a position that can be stored. -/
theorem Cursor.Begins.startsAt (h : c.Begins settings) :
    ∃ p, c.StartsAt p ∧ p.Storable ∧ p.serverId.or settings.server? = p.serverId := by
  rcases h with ⟨place, rfl⟩ | ⟨m, hm⟩
  · exact ⟨_, startsAt_new settings place, storable_start settings place, Option.or_self⟩
  · obtain ⟨p, hp, rfl⟩ := Outcome.map_ok_iff.1 hm
    obtain ⟨hstorable, hserver⟩ := storable_startsAt settings (Position.storable_of_ofCheckpoint hp)
    exact ⟨_, startsAt_restoreAt settings p, hstorable, hserver⟩

/-- What is read from a position on, past what it says is done. -/
theorem Cursor.StartsAt.reading {p : Position} (h : c.StartsAt p) {rest : Log}
    (hr : log.startingAt p.place = Log.entries rest) :
    log.reading c =
      Station.ahead ⟨.between p.place, p.eventsDone.toNat, p.row.toNat, rest⟩ := by
  rw [Log.reading, h.eventsAlreadyDone, h.rowsAlreadyDone, position, h.published, hr]
  rfl

theorem Trails.published (h : Trails settings log c σ) :
    c.published.Storable ∧ c.published.serverId.or settings.server? = c.published.serverId := by
  rw [h.settled.published]
  refine ⟨h.sound.storable.shown c.awaited, ?_⟩
  have hserver := h.sound.server
  cases c.awaited <;> exact hserver

/-- A reading that is restarted goes on as one that began where its cursor says. -/
theorem Trails.restart (h : Trails settings log c σ)
    (hr : Cursor.restore settings c.checkpoint = .ok c') :
    c'.StartsAt c.position ∧ Trails settings log c'
      ⟨.between σ.spot.base, c.position.eventsDone.toNat, c.position.row.toNat,
        σ.spot.items ++ σ.rest⟩ ∧
      log.reading c' = script c.position.eventsDone.toNat c.position.row.toNat
        (Log.entries (σ.spot.items ++ σ.rest)) := by
  obtain ⟨hrestore, hstarts⟩ := Cursor.restore_checkpoint h.settled h.sound
  rw [hrestore, Except.ok.injEq] at hr
  subst hr
  have hplace := h.place_position
  have hon : Station.On log ⟨.between c.position.place, c.position.eventsDone.toNat,
      c.position.row.toNat, σ.spot.items ++ σ.rest⟩ := by
    rw [hplace]
    exact h.on.resume
  have hstation := hstarts.trails h.published.1 h.published.2 hon
  refine ⟨hstarts, ?_, ?_⟩
  · rw [← hplace]
    exact hstation
  · refine hstarts.reading ?_
    show log.startingAt c.position.place = _
    rw [hplace]
    exact h.on.resumes

/-- A reading that is restarted comes to where it was, and passes on no row until then. -/
theorem Follows.restart (h : Follows settings log c σ)
    (hr : Cursor.restore settings c.checkpoint = .ok c') :
    c'.StartsAt c.position ∧ Follows settings log c' σ.resumed ∧
      log.reading c' = σ.resumed.ahead := by
  obtain ⟨hplace, hevents, hrow⟩ := h.held.published h.stands h.settled
  obtain ⟨hstarts, htrails, hreading⟩ := h.toTrails.restart hr
  have hheld := hstarts.held (σ.spot.items ++ σ.rest)
  have hplace : c.position.place = σ.spot.base := hplace
  have hevents : c.position.eventsDone.toNat = σ.spot.done.length + σ.events := hevents
  have hrow : c.position.row.toNat = σ.row := hrow
  rw [hevents, hrow] at htrails hreading hheld
  rw [hplace] at hheld
  exact ⟨hstarts, ⟨htrails, h.due.resumed, hheld⟩, hreading⟩

end BinlogCursor
