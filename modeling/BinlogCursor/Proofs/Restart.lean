/-
A restart that no later position shows.

`restart_invisible`: a reading that is cut between any two calls and restarted publishes the
position of the cut until it has come there again, and from there on the positions that the
reading would have published without the cut.
-/
import BinlogCursor.Proofs.Resumption

namespace BinlogCursor

variable {settings : Settings} {log : Log} {start : Place} {c c' : Cursor} {σ σ' : Station}

/-! ## The way back -/

namespace Station

/-- What a cursor publishes at a station: from where reading resumes, and what it passes over. -/
def mark (σ : Station) : Place × Nat × Nat :=
  (σ.spot.base, σ.spot.done.length + σ.events, σ.row)

theorem mark_resumed (σ : Station) : σ.resumed.mark = σ.mark := by
  simp [mark, resumed, Spot.base, Spot.done]

/-- Calls that take a reader from one station to another, at all of which the same is done. -/
inductive Passes : Station → List Call → Station → Prop
  | nil {σ : Station} : Passes σ [] σ
  | cons {σ σ' τ : Station} {a : Call} {calls : List Call} (move : Moves σ a σ')
    (same : σ'.mark = σ.mark) (more : Passes σ' calls τ) : Passes σ (a :: calls) τ

theorem Passes.append {σ τ υ : Station} {calls more : List Call} (h : σ.Passes calls τ)
    (h' : τ.Passes more υ) : σ.Passes (calls ++ more) υ := by
  induction h with
  | nil => exact h'
  | cons move same _ ih => exact .cons move same (ih h')

/-- Within a transaction events are passed over one by one. -/
theorem passes_passedOver (o : LogEvent) (l done todo : List LogEvent) (c : LogEvent) (k j : Nat)
    (rest : Log) :
    Passes ⟨.inside o done (l ++ todo) c, l.length + k, j, rest⟩ (passedOver l)
      ⟨.inside o (done ++ l) todo c, k, j, rest⟩ := by
  induction l generalizing done with
  | nil =>
    simp only [List.nil_append, List.length_nil, Nat.zero_add, List.append_nil]
    exact .nil
  | cons e l ih =>
    have hlen : (e :: l).length + k = l.length + k + 1 := by
      simp only [List.length_cons]
      omega
    have ht := ih (done ++ [e])
    rw [List.append_assoc, List.singleton_append] at ht
    rw [hlen]
    refine .cons .enterBody rfl (.cons .passBody ?_ ht)
    simp only [mark, Spot.base, Spot.done, List.length_append, List.length_singleton,
      Prod.mk.injEq, true_and, and_true]
    omega

/-- A reading that resumes comes to the station without doing anything new. -/
theorem passes_lead (σ : Station) : σ.resumed.Passes σ.lead σ := by
  obtain ⟨spot, k, j, rest⟩ := σ
  have inside : ∀ o done todo c, Passes
      ⟨.between o.place, done.length + k, j, .transaction o (done ++ todo) c :: rest⟩
      (.enter o :: .begin :: passedOver done) ⟨.inside o done todo c, k, j, rest⟩ :=
    fun o done todo c =>
      .cons .enterOpening rfl (.cons .begin rfl (passes_passedOver o done [] todo c k j rest))
  cases spot with
  | between p =>
    simp only [resumed, Spot.base, Spot.done, Spot.items, List.length_nil, Nat.zero_add,
      List.nil_append]
    exact .nil
  | single e =>
    simp only [resumed, Spot.base, Spot.done, Spot.items, List.length_nil, Nat.zero_add]
    exact .cons .enterSingle rfl .nil
  | opening o todo c =>
    simp only [resumed, Spot.base, Spot.done, Spot.items, List.length_nil, Nat.zero_add]
    exact .cons .enterOpening rfl .nil
  | inside o done todo c => exact inside o done todo c
  | body o done e todo c =>
    exact (inside o done (e :: todo) c).append (.cons .enterBody rfl .nil)
  | closing o done c =>
    have ht := inside o done [] c
    rw [List.append_nil] at ht
    exact ht.append (.cons .enterClosing rfl .nil)

end Station

/-- Over calls at which nothing new is done the cursor follows, and what it publishes stays. -/
theorem Follows.passes (hlog : log.WellFormed) {calls : List Call} (h : Follows settings log c σ)
    (hp : σ.Passes calls σ') : Follows settings log (c.follow calls) σ' ∧
      ∀ part, part <+: calls → ∃ τ, Follows settings log (c.follow part) τ ∧ τ.mark = σ.mark := by
  induction hp generalizing c with
  | @nil σ =>
    refine ⟨h, fun part hpart => ⟨σ, ?_, rfl⟩⟩
    rw [List.prefix_nil.1 hpart]
    exact h
  | @cons σ σ' τ a calls move same _ ih =>
    obtain ⟨hend, hparts⟩ := ih (h.call hlog move)
    refine ⟨hend, fun part hpart => ?_⟩
    cases part with
    | nil => exact ⟨σ, h, rfl⟩
    | cons b part =>
      obtain ⟨rfl, hmore⟩ := List.cons_prefix_cons.1 hpart
      obtain ⟨υ, hυ, hmark⟩ := hparts part hmore
      exact ⟨υ, hυ, hmark.trans same⟩

/-! ## What else is published -/

namespace Cursor

/-- Apart from how far reading has come, the cursor publishes what a position says, and nothing is
announced that would change this. -/
structure Plain (p : Position) (c : Cursor) : Prop where
  announced : c.announced = none
  restart : c.restart.Resembles p

theorem Plain.hear {p : Position} (h : c.Plain p) (a : Call) : (c.hear a).Plain p := by
  have hc := carries_hear c a
  have hgtids : (c.hear a).announced = none ∧ (c.hear a).restart.gtids = c.restart.gtids := by
    rcases hc.gtids with ⟨hg, ha⟩ | ⟨hg, ha⟩
    · exact ⟨ha.trans h.announced, hg⟩
    · rw [h.announced] at hg
      exact ⟨ha, hg⟩
  have hsame : (c.hear a).restart.Resembles c.restart :=
    ⟨hgtids.2, hc.duringSnapshot, hc.serverId, seconds_hear c a⟩
  exact ⟨hgtids.1, hsame.trans h.restart⟩

theorem Plain.follow {p : Position} (h : c.Plain p) (calls : List Call) :
    (c.follow calls).Plain p := by
  induction calls generalizing c with
  | nil => exact h
  | cons a calls ih => exact ih (h.hear a)

theorem StartsAt.plain {p : Position} (h : c.StartsAt p) : c.Plain p := by
  refine ⟨h.announced, ?_⟩
  rw [h.restart]
  exact ⟨rfl, rfl, rfl, rfl⟩

theorem Plain.position {p : Position} (h : c.Plain p) (hs : c.Settled) :
    c.position.Resembles p :=
  hs.resembles.trans h.restart

end Cursor

theorem Position.Resembles.eq {p q : Position} (h : p.Resembles q) (place : p.place = q.place)
    (events : p.eventsDone.toNat = q.eventsDone.toNat) (row : p.row.toNat = q.row.toNat) :
    p = q := by
  obtain ⟨gtids, duringSnapshot, serverId, seconds⟩ := h
  rw [UInt32.toNat_inj] at events row
  cases p
  cases q
  simp only at place events row gtids duringSnapshot serverId seconds
  rw [place, events, row, gtids, duringSnapshot, serverId, seconds]

/-- Cursors that follow to where the same is done publish the same position. -/
theorem Follows.position_eq {p : Position} (h : Follows settings log c σ)
    (h' : Follows settings log c' σ') (hm : σ'.mark = σ.mark) (hc : c.Plain p)
    (hc' : c'.Plain p) : c'.position = c.position := by
  obtain ⟨hplace, hevents, hrow⟩ := h.held.published h.stands h.settled
  obtain ⟨hplace', hevents', hrow'⟩ := h'.held.published h'.stands h'.settled
  have hsame : c'.position.Resembles c.position :=
    (hc'.position h'.settled).trans (hc.position h.settled).symm
  simp only [Station.mark, Prod.mk.injEq] at hm
  obtain ⟨m₁, m₂, m₃⟩ := hm
  exact hsame.eq (hplace'.trans (m₁.trans hplace.symm)) (hevents'.trans (m₂.trans hevents.symm))
    (hrow'.trans (m₃.trans hrow.symm))

/-! ## Side by side -/

/-- Nothing is awaited where nothing is to be passed over. -/
theorem Follows.awaited_eq_none (h : Follows settings log c σ) (hk : σ.events = 0)
    (hj : σ.row = 0) : c.awaited = none := by
  cases hr : c.awaited with
  | none => rfl
  | some r =>
    obtain ⟨-, hevents, hrows, hrow⟩ := h.held.restored r hr
    have hlt := (Progress.isBeyond_iff.1 (h.settled.beyond r hr)).2
    rw [h.stands.events] at hlt
    omega

/-- A cursor that awaits nothing counts all that is done itself; so nothing is to be passed over,
and rows are done only of the event at hand. -/
theorem Follows.counted (h : Follows settings log c σ) (hn : c.awaited = none) :
    σ.events = 0 ∧ (σ.row = 0 ∨ σ.spot.AtRows) := by
  obtain ⟨hk, hrow⟩ := h.held.counted hn
  refine ⟨hk, ?_⟩
  rcases h.stands.row with hz | ⟨hat, -⟩
  · exact .inl (hrow.symm.trans hz)
  · exact .inr hat

/-- Nothing is awaited once a row is read. -/
theorem Follows.awaited_row {e : LogEvent} {i : Nat}
    (h : Follows settings log (c.hear (.row e i)) σ) (hi : i < e.rows.toNat) :
    (c.hear (.row e i)).awaited = none := by
  cases hr : (c.hear (.row e i)).awaited with
  | none => rfl
  | some r =>
    have hrow := (h.held.restored r hr).2.2.2
    rw [Cursor.hear_row, Cursor.restart_publish] at hrow
    have hdone : (Cursor.rowsDone e i).toNat = 0 := hrow
    rw [Cursor.toNat_rowsDone hi] at hdone
    cases hdone

/-- One call behind the station to which reading came back, nothing is awaited. -/
theorem Follows.caughtUp (hlog : log.WellFormed) (h : Follows settings log c σ)
    (hn : c.awaited = none) (h' : Follows settings log c' σ) {a : Call} (hm : σ.Moves a σ') :
    (c'.hear a).awaited = none := by
  have ha := Cursor.awaited_perform h.settled (.notify a.notification)
  have hn' : (c.hear a).awaited = none := ha.trans (by rw [hn]; rfl)
  have hτ := h.call hlog hm
  have hτ' := h'.call hlog hm
  obtain ⟨hk, hrows⟩ := hτ.counted hn'
  obtain ⟨hk₀, hrows₀⟩ := h.counted hn
  rcases hrows with hj | hat
  · exact hτ'.awaited_eq_none hk hj
  -- Rows are done, so the call either read one or entered the event they belong to.
  · cases hm with
    | enterSingle =>
      have hj : _ = 0 := hrows₀.resolve_right fun hat => hat
      exact hτ'.awaited_eq_none hk hj
    | enterBody =>
      have hj : _ = 0 := hrows₀.resolve_right fun hat => hat
      exact hτ'.awaited_eq_none hk hj
    | rowSingle hj => exact hτ'.awaited_row hj
    | rowBody hj => exact hτ'.awaited_row hj
    | enterOpening => exact hat.elim
    | begin => exact hat.elim
    | enterClosing => exact hat.elim
    | finishSingle => exact hat.elim
    | finishBody => exact hat.elim
    | passBody => exact hat.elim
    | commit => exact hat.elim

theorem Follows.follow (hlog : log.WellFormed) {calls more : List Call}
    (h : Follows settings log c σ) (ha : σ.ahead = calls ++ more) :
    ∃ τ, Follows settings log (c.follow calls) τ ∧ τ.ahead = more := by
  induction calls generalizing c σ with
  | nil => exact ⟨σ, h, ha⟩
  | cons a calls ih =>
    obtain ⟨σ', hm, ha'⟩ := Station.exists_moves ha
    exact ih (h.call hlog hm) ha'

/-- Two cursors at one station go on alike. -/
theorem Follows.alongside (hlog : log.WellFormed) {p : Position} (h : Follows settings log c σ)
    (h' : Follows settings log c' σ) (hc : c.Plain p) (hc' : c'.Plain p) {part : List Call}
    (hpart : part <+: σ.ahead) :
    (c'.follow part).position = (c.follow part).position ∧
      (c'.follow part).phase = (c.follow part).phase := by
  induction part generalizing c c' σ with
  | nil => exact ⟨h.position_eq h' rfl hc hc', h'.stands.phase.trans h.stands.phase.symm⟩
  | cons a part ih =>
    obtain ⟨more, hmore⟩ := hpart
    obtain ⟨σ', hm, ha⟩ := Station.exists_moves hmore.symm
    exact ih (h.call hlog hm) (h'.call hlog hm) (hc.hear a) (hc'.hear a) ⟨more, ha.symm⟩

theorem Cursor.awaited_follow (hs : c.Settled) (hn : c.awaited = none) (calls : List Call) :
    (c.follow calls).awaited = none := by
  induction calls generalizing c with
  | nil => exact hn
  | cons a calls ih =>
    have ha := awaited_perform hs (.notify a.notification)
    rw [hn] at ha
    exact ih (hs.perform (.notify a.notification)) ha

/-- **A restart is invisible.** Wherever a reading is cut between two calls, it can be restarted;
it comes back to the cut (`again`) without passing on a row and with the position of the cut
published throughout, and from there on it calls what the reading would have called and publishes
what it would have published, awaiting nothing from the first of those calls on. -/
theorem restart_invisible (hlog : log.WellFormed) (hstart : log.StartsFrom start)
    {before after : List Call} (hcut : log.reading (.new settings start) = before ++ after) :
    ∃ c', Cursor.restore settings ((Cursor.new settings start).follow before).checkpoint = .ok c' ∧
      ∃ again, log.reading c' = again ++ after ∧ rowsOf again = [] ∧
        (∀ part, part <+: again → (c'.follow part).position =
          ((Cursor.new settings start).follow before).position) ∧
        ∀ part, part <+: after →
          (c'.follow (again ++ part)).position =
              ((Cursor.new settings start).follow (before ++ part)).position ∧
            (c'.follow (again ++ part)).phase =
              ((Cursor.new settings start).follow (before ++ part)).phase ∧
            (part ≠ [] → (c'.follow (again ++ part)).catchingUp = false) := by
  obtain ⟨hnew, hreading⟩ := follows_new settings hstart
  have hstarts := Cursor.startsAt_new settings start
  obtain ⟨σ, hσ, rfl⟩ := hnew.follow hlog (hreading.symm.trans hcut)
  have hplain := hstarts.plain.follow before
  have hnone := Cursor.awaited_follow hstarts.settled hstarts.awaited before
  obtain ⟨hrestore, -⟩ := Cursor.restore_checkpoint hσ.settled hσ.sound
  obtain ⟨hstarts', hresumed, hreading'⟩ := hσ.restart hrestore
  have hplain' : (Cursor.restoreAt settings
      ((Cursor.new settings start).follow before).published).Plain
        { Position.start start with serverId := settings.server? } := by
    have hp := hstarts'.plain
    exact ⟨hp.announced, hp.restart.trans (hplain.position hσ.settled)⟩
  obtain ⟨hend, hparts⟩ := hresumed.passes hlog σ.passes_lead
  refine ⟨_, hrestore, σ.lead, hreading'.trans σ.ahead_resumed, σ.rowsOf_lead, ?_, ?_⟩
  · intro part hpart
    obtain ⟨τ, hτ, hmark⟩ := hparts part hpart
    exact hσ.position_eq hτ (hmark.trans σ.mark_resumed) hplain (hplain'.follow part)
  · intro part hpart
    rw [Cursor.follow_append, Cursor.follow_append]
    obtain ⟨hposition, hphase⟩ :=
      hσ.alongside hlog hend hplain (hplain'.follow σ.lead) hpart
    refine ⟨hposition, hphase, fun hne => ?_⟩
    cases part with
    | nil => exact absurd rfl hne
    | cons a part =>
      obtain ⟨more, hmore⟩ := hpart
      obtain ⟨σ', hm, -⟩ := Station.exists_moves hmore.symm
      have hcaught := hσ.caughtUp hlog hnone hend hm
      have hawaited := Cursor.awaited_follow (hend.call hlog hm).settled hcaught part
      rw [Cursor.follow_cons, Cursor.catchingUp, hawaited]
      rfl

/-- A reading that was cut within a transaction comes back to the cut before it calls anything
new. -/
theorem restart_invisible_within_transaction :
    ∃ c, Cursor.restore .default (twoFilesStart.follow twoFilesBefore).checkpoint = .ok c ∧
      ∃ again, Log.twoFiles.reading c = again ++ twoFilesAfter ∧
        (c.follow again).position = (twoFilesStart.follow twoFilesBefore).position := by
  have hstart : Log.twoFiles.StartsFrom ⟨"bin.000009", 4⟩ := by decide
  obtain ⟨c, hc, again, hreading, -, hposition, -⟩ :=
    restart_invisible Log.wellFormed_twoFiles hstart reading_twoFiles
  exact ⟨c, hc, again, hreading, hposition again (List.prefix_refl again)⟩

end BinlogCursor
