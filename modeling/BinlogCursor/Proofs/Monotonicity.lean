/-
Published positions never go back.

`Onward.step`: each step of a history takes the published position forward or leaves it
(`Position.Forward`). `position_at_or_before`: so of any two moments of a history the earlier
published a position at or before that of the later, by every comparison.
-/
import BinlogCursor.Proofs.ComparisonOrder
import BinlogCursor.Proofs.History

namespace BinlogCursor

/-! ## Sets that grow -/

theorem Grows.refl {g : Option GtidSet} (h : ∀ s, g = some s → s.WellFormed) : Grows g g :=
  fun s hs => ⟨s, hs, GtidSet.isWithin_refl (h s hs)⟩

theorem Grows.trans {f g h : Option GtidSet} (hf : ∀ s, f = some s → s.WellFormed)
    (hg : ∀ s, g = some s → s.WellFormed) (hh : ∀ s, h = some s → s.WellFormed)
    (hfg : Grows f g) (hgh : Grows g h) : Grows f h := by
  intro s hs
  obtain ⟨t, ht, hst⟩ := hfg s hs
  obtain ⟨u, hu, htu⟩ := hgh t ht
  exact ⟨u, hu, GtidSet.isWithin_trans (hf s hs) (hg t ht) (hh u hu) hst htu⟩

/-! ## Positions that go forward -/

namespace Position

theorem Storable.wellFormed {p : Position} (h : p.Storable) : p.WellFormed :=
  fun g hg => (h.gtids g hg).wellFormed

theorem Advance.trans {p q r : Position} (hpq : p.Advance q) (hqr : q.Advance r) :
    p.Advance r := by
  rcases hpq with hpq | ⟨hp, hpq⟩
  · rcases hqr with hqr | ⟨hq, -⟩
    · exact .inl (Place.before_trans hpq hqr)
    · exact .inl (hq ▸ hpq)
  · rcases hqr with hqr | ⟨hq, hqr⟩
    · exact .inl (hp ▸ hqr)
    · exact .inr ⟨hp.trans hq, by omega⟩

/-- One position has come no less far than another of the same server, and has executed what the
other had. -/
structure Forward (p q : Position) : Prop where
  advance : p.Advance q
  gtids : Grows p.gtids q.gtids
  duringSnapshot : q.duringSnapshot = p.duringSnapshot
  serverId : q.serverId = p.serverId

theorem Forward.refl {p : Position} (h : p.WellFormed) : p.Forward p :=
  ⟨.refl p, .refl h, rfl, rfl⟩

theorem Forward.trans {p q r : Position} (hp : p.WellFormed) (hq : q.WellFormed)
    (hr : r.WellFormed) (hpq : p.Forward q) (hqr : q.Forward r) : p.Forward r :=
  ⟨hpq.advance.trans hqr.advance, .trans hp hq hr hpq.gtids hqr.gtids,
    hqr.duringSnapshot.trans hpq.duringSnapshot, hqr.serverId.trans hpq.serverId⟩

theorem Forward.numbered {p q : Position} (h : p.Forward q) (hp : p.place.Numbered) :
    q.place.Numbered := by
  rcases h.advance with hb | ⟨he, -⟩
  · exact Place.numbered_of_upTo hp (Place.upTo_of_before hb)
  · exact he ▸ hp

theorem Forward.sharesServer {p q : Position} (h : p.Forward q) : p.SharesServer q :=
  fun _ _ hs ht => Option.some.inj (hs.symm.trans (h.serverId.symm.trans ht))

theorem Forward.tieOrder_eq {p q : Position} (h : p.Forward q) : p.tieOrder q = .eq := by
  rw [tieOrder, h.duringSnapshot]
  exact Std.ReflCmp.compare_self

/-- The counters at one place are in order. -/
theorem isLE_counters {p q : Position}
    (h : p.eventsDone.toNat < q.eventsDone.toNat ∨
      p.eventsDone.toNat = q.eventsDone.toNat ∧ p.row.toNat ≤ q.row.toNat) :
    ((compare p.eventsDone q.eventsDone).then (compare p.row q.row)).isLE = true := by
  rcases h with hlt | ⟨heq, hle⟩
  · have hc : compare p.eventsDone q.eventsDone = .lt :=
      Std.compare_eq_lt.2 (UInt32.lt_iff_toNat_lt.2 hlt)
    rw [hc]
    rfl
  · have hc : compare p.eventsDone q.eventsDone = .eq :=
      Std.compare_eq_iff_eq.2 (UInt32.toNat_inj.1 heq)
    rw [hc, Ordering.eq_then]
    exact Std.isLE_compare.2 (UInt32.le_iff_toNat_le.2 hle)

/-- In numbered files the order of the log sees that a position went forward. -/
theorem Forward.isLE_logOrder {p q : Position} (h : p.Forward q) (hnum : p.place.Numbered) :
    ∃ f g, LogFile.parse? p.place.file = some f ∧ LogFile.parse? q.place.file = some g ∧
      f.stem = g.stem ∧ (logOrder (f, p) (g, q)).isLE = true := by
  have hlog : ∀ f g, logOrder (f, p) (g, q) =
      (Place.fileOrder (f, p.place.offset) (g, q.place.offset)).then
        ((compare p.eventsDone q.eventsDone).then (compare p.row q.row)) := fun f g => by
    simp only [logOrder, h.tieOrder_eq, Ordering.then_eq, Ordering.then_assoc]
  rcases h.advance with hb | ⟨he, hcounts⟩
  · obtain ⟨f, g, hf, hg, hs, ho⟩ := Place.order_eq_ok_iff.1 (Place.order_of_before hnum hb)
    refine ⟨f, g, hf, hg, hs, ?_⟩
    rw [hlog, ho]
    rfl
  · obtain ⟨f, hf⟩ := Option.isSome_iff_exists.1 hnum
    refine ⟨f, f, hf, he ▸ hf, rfl, ?_⟩
    have hself : Place.fileOrder (f, p.place.offset) (f, q.place.offset) = .eq := by
      rw [he]
      exact Std.ReflCmp.compare_self
    rw [hlog, hself, Ordering.eq_then]
    exact isLE_counters hcounts

end Position

/-- A position that went forward is found at or behind where it was, whatever the comparison. -/
theorem Comparison.isLE_of_forward (cmp : Comparison) {p q : Position}
    (hnum : p.place.Numbered) (h : p.Forward q) : cmp.isLE p q = .ok true := by
  rw [isLE_eq_true_iff]
  cases hg : p.gtids with
  | none =>
    cases hh : q.gtids with
    | none =>
      obtain ⟨f, g, hf, hg', hs, hle⟩ := h.isLE_logOrder hnum
      refine ⟨.ofOrdering (Position.logOrder (f, p) (g, q)), ?_, ?_⟩
      · rw [cmp.compare_none_none hg hh]
        exact (Position.orderWithoutGtids_eq_ok_iff h.sharesServer).2 ⟨f, g, hf, hg', hs, rfl⟩
      · rwa [Standing.isLE_ofOrdering]
    | some t => exact ⟨.before, cmp.compare_none_some hg hh, rfl⟩
  | some s =>
    obtain ⟨t, ht, hst⟩ := h.gtids s hg
    have hle :
        (Standing.ofOrdering ((cmp.inclusionOrder s t).then (p.tieOrder q))).isLE = true := by
      rw [Standing.isLE_ofOrdering, h.tieOrder_eq, Ordering.then_eq, inclusionOrder]
      split <;> rfl
    exact ⟨_, (cmp.compare_some_some hg ht hle).2 ⟨cmp.isWithin_restrict hst, rfl⟩, hle⟩

/-! ## What is published -/

/-- What is shown of a position that advanced has advanced, if what is awaited is shown until the
position has come as far. -/
theorem Position.Advance.shown {p q : Position} (h : p.Advance q) {r : Option Progress}
    (hr : ∀ x, r = some x → x.isBeyond p = true) :
    (p.shown r).Advance (q.shown (r.filter (·.isBeyond q))) := by
  cases r with
  | none => exact h
  | some x =>
    have hplace := (Progress.isBeyond_iff.1 (hr x rfl)).1
    by_cases hx : x.isBeyond q = true
    · rw [Option.filter_some, if_pos hx]
      rcases h with hb | ⟨he, -⟩
      · exact .inl hb
      · exact .inr ⟨he, .inr ⟨rfl, Nat.le_refl _⟩⟩
    · rw [Option.filter_some, if_neg hx]
      rcases h with hb | ⟨he, -⟩
      · exact .inl hb
      · refine .inr ⟨he, ?_⟩
        rw [Progress.isBeyond_iff] at hx
        have hle : ¬ (q.eventsDone.toNat < x.eventsDone.toNat ∨
            q.eventsDone.toNat = x.eventsDone.toNat ∧ q.row.toNat < x.rowsDone.toNat) :=
          fun hlt => hx ⟨he.symm.trans hplace, hlt⟩
        simp only [Position.shown]
        omega

namespace Cursor

variable {c c' : Cursor}

theorem Settled.advance_published (h : c.Settled) (h' : c'.Settled)
    (ha : c'.awaited = c.awaited.filter (·.isBeyond c'.restart))
    (hadv : c.restart.Advance c'.restart) : c.position.Advance c'.position := by
  rw [position, position, h.published, h'.published, ha]
  exact hadv.shown h.beyond

end Cursor

/-! ## Histories -/

variable {settings : Settings} {log : Log} {c c' : Cursor} {σ : Station}

/-- What was announced last is known to the run: it is still to come, or executed already. -/
structure Informed (c : Cursor) (tip : Option GtidSet) : Prop where
  present : ∀ g, tip = some g → g.WellFormed
  pending : ∀ g, c.announced = some g → tip = some g
  known : Grows c.restart.gtids tip

theorem Informed.carries {tip : Option GtidSet} (h : Informed c tip) (hc : c.Carries c') :
    Informed c' tip := by
  rcases hc.gtids with ⟨hg, ha⟩ | ⟨hg, ha⟩
  · exact ⟨h.present, fun g hp => h.pending g (ha ▸ hp), hg ▸ h.known⟩
  · refine ⟨h.present, fun g hp => ?_, ?_⟩
    · rw [ha] at hp
      cases hp
    rw [hg]
    cases hp : c.announced with
    | none => exact h.known
    | some g =>
      rw [h.pending g hp, Option.some_or]
      exact .refl fun s hs => h.present s (h.pending g hp ▸ hs)

/-- The set that is executed grows when what was announced is taken over. -/
theorem Informed.grows {tip : Option GtidSet} (h : Informed c tip) (hs : c.Sound settings)
    (hc : c.Carries c') : Grows c.restart.gtids c'.restart.gtids := by
  have hrefl : Grows c.restart.gtids c.restart.gtids := .refl hs.storable.wellFormed
  rcases hc.gtids with ⟨hg, -⟩ | ⟨hg, -⟩
  · rw [hg]
    exact hrefl
  · rw [hg]
    cases hp : c.announced with
    | none => exact hrefl
    | some g =>
      rw [Option.some_or, ← h.pending g hp]
      exact h.known

theorem Informed.announce {tip : Option GtidSet} (h : Informed c tip) (hs : c.Sound settings)
    (id : String) {set : String} (hgrows : Grows tip (announcedAfter tip set)) :
    Informed (c.announce id set).1 (announcedAfter tip set) := by
  cases hset : GtidSet.parseUnlessBlank (some set) with
  | error e =>
    simp only [announcedAfter, Cursor.announce, hset]
    exact ⟨h.present, h.pending, h.known⟩
  | ok o =>
    cases o with
    | none =>
      simp only [announcedAfter, Cursor.announce, hset]
      exact ⟨h.present, h.pending, h.known⟩
    | some g =>
      have hpresent : ∀ s, some g = some s → s.WellFormed := fun s he => by
        cases he
        exact (GtidSet.Present.of_parseUnlessBlank hset).wellFormed
      simp only [announcedAfter, hset] at hgrows
      simp only [announcedAfter, Cursor.announce, hset]
      exact ⟨hpresent, fun s hs => hs,
        .trans hs.storable.wellFormed h.present hpresent h.known hgrows⟩

/-- A moment of a history in which the cursor trails its reader, and knows what was announced. -/
structure Onward (settings : Settings) (log : Log) (M : Moment) : Prop where
  station : ∃ σ, M.ahead = σ.ahead ∧ Trails settings log M.cursor σ
  informed : Informed M.cursor M.tip

theorem Trails.forward {tip : Option GtidSet} (h : Trails settings log c σ)
    (hi : Informed c tip) (hs' : c'.Settled)
    (ha : c'.awaited = c.awaited.filter (·.isBeyond c'.restart))
    (hadv : c.restart.Advance c'.restart) (hc : c.Carries c') :
    c.position.Forward c'.position := by
  have hp := h.settled.resembles
  have hp' := hs'.resembles
  refine ⟨h.settled.advance_published hs' ha hadv, ?_, ?_, ?_⟩
  · rw [hp.gtids, hp'.gtids]
    exact hi.grows h.sound hc
  · rw [hp.duringSnapshot, hp'.duringSnapshot, hc.duringSnapshot]
  · rw [hp.serverId, hp'.serverId, hc.serverId]

theorem Cursor.StartsAt.informed {p : Position} (h : c.StartsAt p) (hp : p.Storable) :
    Informed c p.gtids := by
  refine ⟨hp.wellFormed, fun g hg => ?_, ?_⟩
  · rw [h.announced] at hg
    cases hg
  · rw [h.restart]
    exact .refl hp.wellFormed

/-- Each step of a history takes the published position forward, or leaves it. -/
theorem Onward.step (hlog : log.WellFormed) {M M' : Moment} (h : Onward settings log M)
    (hs : Step settings log M M') :
    Onward settings log M' ∧ M.cursor.position.Forward M'.cursor.position := by
  obtain ⟨⟨σ, ha, ht⟩, hi⟩ := h
  have hstays : M.cursor.position.Forward M.cursor.position := .refl ht.published.1.wellFormed
  cases hs with
  | @call c a ahead passed tip =>
    obtain ⟨σ', hm, ha'⟩ := Station.exists_moves ha.symm
    have ht' := ht.call hlog hm
    have hc := Cursor.carries_hear c a
    refine ⟨⟨⟨σ', ha'.symm, ht'⟩, hi.carries hc⟩, ?_⟩
    exact ht.forward hi ht'.settled (Cursor.awaited_perform ht.settled (.notify a.notification))
      (ht.stands.advance hlog ht.on hm) hc
  | @note c ahead passed tip op hop =>
    have ht' := ht.note hop
    have hc := Cursor.carries_note c hop
    refine ⟨⟨⟨σ, ha, ht'⟩, hi.carries hc⟩, ?_⟩
    exact ht.forward hi ht'.settled (Cursor.awaited_perform ht.settled op)
      (Cursor.Quiet.note ht.settled hop).advance hc
  | @announce c ahead passed tip id set hgrows =>
    refine ⟨⟨⟨σ, ha, ht.announce id set⟩, hi.announce ht.sound id hgrows⟩, ?_⟩
    show c.position.Forward (c.announce id set).1.position
    rw [Cursor.position_announce]
    exact hstays
  | @jump c e ahead passed tip offset idle onward short =>
    obtain ⟨p, k, j, item, rest, rfl, rfl⟩ :=
      Station.between_of_ahead ha.symm (ht.stands.phase.symm.trans idle)
    have ht' := ht.jump onward short
    have hc := Cursor.carries_jumpTo c item.first.file offset
    have hplace : c.position.place = p := ht.place_position
    have hadv := ht.stands.advance_upTo (hplace ▸ onward) ht'.stands.place
    refine ⟨⟨⟨⟨.between ⟨item.first.file, offset⟩, k, j, item :: rest⟩, ha, ht'⟩,
      hi.carries hc⟩, ?_⟩
    exact ht.forward hi ht'.settled
      (Cursor.awaited_perform ht.settled (.notify (.jump item.first.file offset))) hadv hc
  | @restart c ahead passed tip c' hrestore =>
    obtain ⟨hstarts, ht', hreading⟩ := ht.restart hrestore
    have hposition : c'.position = c.position := hstarts.published
    refine ⟨⟨⟨⟨.between σ.spot.base, c.position.eventsDone.toNat, c.position.row.toNat,
      σ.spot.items ++ σ.rest⟩, hreading, ht'⟩, ?_⟩, ?_⟩
    · show Informed c' c'.position.gtids
      rw [hposition]
      exact hstarts.informed ht.published.1
    · show c.position.Forward c'.position
      rw [hposition]
      exact hstays

/-- Over a history the published position goes forward. -/
theorem Onward.history (hlog : log.WellFormed) {M N : Moment} (h : Onward settings log M)
    (hs : Relation.ReflTransGen (Step settings log) M N) :
    Onward settings log N ∧ M.cursor.position.Forward N.cursor.position := by
  have hwf : ∀ {M}, Onward settings log M → M.cursor.position.WellFormed := fun {M} hM => by
    obtain ⟨⟨σ, -, ht⟩, -⟩ := hM
    exact ht.published.1.wellFormed
  induction hs with
  | refl => exact ⟨h, .refl (hwf h)⟩
  | tail _ hstep ih =>
    obtain ⟨hmid, hforward⟩ := ih
    obtain ⟨hend, hlast⟩ := hmid.step hlog hstep
    exact ⟨hend, hforward.trans (hwf h) (hwf hmid) (hwf hend) hlast⟩

/-- Reading that begins with a new cursor, or with a restored one, is at the start of the log. -/
theorem Cursor.Begins.onward (h : c.Begins settings) (hstart : log.StartsFrom c.position.place) :
    Onward settings log (.start log c []) := by
  obtain ⟨p, hstarts, hp, hserver⟩ := h.startsAt
  have hposition : c.position = p := hstarts.published
  rw [hposition] at hstart
  refine ⟨⟨_, hstarts.reading (Log.startingAt_start hstart),
    hstarts.trails hp hserver (Station.on_start hstart)⟩, ?_⟩
  show Informed c c.position.gtids
  rw [hposition]
  exact hstarts.informed hp

/-- **Positions never go back.** Of any two moments of a history with any number of restarts, the
position published at the earlier is at or before the one published at the later, for whichever
servers the comparison counts. -/
theorem position_at_or_before (hlog : log.WellFormed) (hbegins : c.Begins settings)
    (hnumbered : c.position.place.Numbered) (hstart : log.StartsFrom c.position.place)
    {M N : Moment} (hM : Relation.ReflTransGen (Step settings log) (.start log c []) M)
    (hN : Relation.ReflTransGen (Step settings log) M N) (cmp : Comparison) :
    cmp.isLE M.cursor.position N.cursor.position = .ok true := by
  obtain ⟨honward, hfirst⟩ := (hbegins.onward hstart).history hlog hM
  obtain ⟨-, hforward⟩ := honward.history hlog hN
  exact cmp.isLE_of_forward (hfirst.numbered hnumbered) hforward

/-- From a cut within a transaction to the end of the log, through a restart. -/
theorem position_at_or_before_through_restart :
    ∃ c, Cursor.restore .default (twoFilesStart.follow twoFilesBefore).checkpoint = .ok c ∧
      Comparison.unfiltered.isLE (twoFilesStart.follow twoFilesBefore).position
        (c.follow (Log.twoFiles.reading c)).position = .ok true := by
  have hbegins : twoFilesStart.Begins .default := .inl ⟨_, rfl⟩
  have hnumbered : twoFilesStart.position.place.Numbered := by
    unfold Place.Numbered
    decide
  have hstart : Log.twoFiles.StartsFrom twoFilesStart.position.place := by decide
  obtain ⟨⟨⟨σ, -, ht⟩, -⟩, -⟩ :=
    (hbegins.onward hstart).history Log.wellFormed_twoFiles reaches_twoFiles
  obtain ⟨hrestore, -⟩ := Cursor.restore_checkpoint ht.settled ht.sound
  refine ⟨_, hrestore, ?_⟩
  generalize Cursor.restoreAt .default (twoFilesStart.follow twoFilesBefore).published = c
    at hrestore
  have hall : Relation.ReflTransGen (Step .default Log.twoFiles)
      ⟨c, Log.twoFiles.reading c ++ [], rowsOf twoFilesBefore, c.position.gtids⟩
      ⟨c.follow (Log.twoFiles.reading c), [], rowsOf twoFilesBefore ++
        rowsOf (Log.twoFiles.reading c), c.position.gtids⟩ := reaches_follow _
  rw [List.append_nil] at hall
  exact position_at_or_before Log.wellFormed_twoFiles hbegins hnumbered hstart reaches_twoFiles
    (.head (.restart hrestore) hall) .unfiltered

end BinlogCursor
