/-
The order of positions within one server.

`compare_trans`: what comes at or before a position comes at or before all that follows it,
and strictly so when one of the two steps is strict, whichever of the rules (sets, a missing
set, the log, a snapshot) decides each of the three comparisons.
-/
import BinlogCursor.Comparison
import BinlogCursor.Proofs.GtidInclusion
import BinlogCursor.Proofs.PlaceOrder

namespace BinlogCursor

namespace Standing

theorem isLE_ofOrdering (o : Ordering) : (ofOrdering o).isLE = o.isLE := by
  cases o <;> rfl

theorem ofOrdering_eq_before {o : Ordering} : ofOrdering o = .before ↔ o = .lt := by
  cases o <;> simp [ofOrdering]

end Standing

namespace Position

/-- Not both positions name a server, or they name the same. -/
def SharesServer (a b : Position) : Prop :=
  ∀ s t, a.serverId = some s → b.serverId = some t → s = t

/-- The set of the position, if there is one, was read from a text. -/
def Parsed (p : Position) : Prop :=
  ∀ g, p.gtids = some g → ∃ text, GtidSet.parse text = .ok g

/-- The set of the position, if there is one, has the form of a set that was read. -/
def WellFormed (p : Position) : Prop :=
  ∀ g, p.gtids = some g → g.WellFormed

theorem Parsed.wellFormed {p : Position} (h : p.Parsed) : p.WellFormed := fun g hg => by
  obtain ⟨text, ht⟩ := h g hg
  exact .of_parse ht

theorem onDifferentServers_eq_false {a b : Position} (h : a.SharesServer b) :
    a.onDifferentServers b = false := by
  simp only [onDifferentServers]
  split
  · next s t hs ht => simp [h s t hs ht]
  · rfl

/-- Which of two positions comes first if a snapshot decides. -/
def tieOrder (a b : Position) : Ordering :=
  Ord.compare (!a.duringSnapshot) (!b.duringSnapshot)

theorem orTie_eq (a b : Position) (o : Ordering) :
    a.orTie b o = .ofOrdering (o.then (a.tieOrder b)) := by
  cases o with
  | lt => rfl
  | gt => rfl
  | eq =>
    simp only [orTie, snapshotOrder, tieOrder, Ordering.eq_then]
    cases a.duringSnapshot <;> cases b.duringSnapshot <;> rfl

instance : Std.TransCmp tieOrder :=
  inferInstanceAs (Std.TransCmp (compareOn fun p : Position => !p.duringSnapshot))

/-! ## Positions in the log -/

/-- The order of positions in the files of one stem. -/
def logOrder (x y : LogFile × Position) : Ordering :=
  (((Place.fileOrder (x.1, x.2.place.offset) (y.1, y.2.place.offset)).then
    (compare x.2.eventsDone y.2.eventsDone)).then (compare x.2.row y.2.row)).then
    (x.2.tieOrder y.2)

instance : Std.TransCmp fun x y : LogFile × Position =>
    Place.fileOrder (x.1, x.2.place.offset) (y.1, y.2.place.offset) where
  eq_swap {x y} :=
    @Std.OrientedCmp.eq_swap _ Place.fileOrder _ (x.1, x.2.place.offset) (y.1, y.2.place.offset)
  isLE_trans {x y z} :=
    @Std.TransCmp.isLE_trans _ Place.fileOrder _ (x.1, x.2.place.offset) (y.1, y.2.place.offset)
      (z.1, z.2.place.offset)

instance : Std.TransCmp logOrder :=
  inferInstanceAs (Std.TransCmp (compareLex (compareLex (compareLex
    (fun x y : LogFile × Position =>
      Place.fileOrder (x.1, x.2.place.offset) (y.1, y.2.place.offset))
    (compareOn fun x => x.2.eventsDone)) (compareOn fun x => x.2.row))
    (compareOn fun x => !x.2.duringSnapshot)))

theorem orderWithoutGtids_eq_ok_iff {a b : Position} (h : a.SharesServer b) {s : Standing} :
    a.orderWithoutGtids b = .ok s ↔ ∃ f g, LogFile.parse? a.place.file = some f ∧
      LogFile.parse? b.place.file = some g ∧ f.stem = g.stem ∧
      .ofOrdering (logOrder (f, a) (g, b)) = s := by
  simp only [orderWithoutGtids, onDifferentServers_eq_false h, Bool.false_eq_true, if_false,
    orderByPlace, Outcome.bind_ok_iff, Outcome.pure_ok_iff, orTie_eq]
  constructor
  · rintro ⟨_, ⟨o, ho, rfl⟩, rfl⟩
    obtain ⟨f, g, hf, hg, hs, rfl⟩ := Place.order_eq_ok_iff.1 ho
    exact ⟨f, g, hf, hg, hs, rfl⟩
  · rintro ⟨f, g, hf, hg, hs, rfl⟩
    exact ⟨_, ⟨_, Place.order_eq_ok_iff.2 ⟨f, g, hf, hg, hs, rfl⟩, rfl⟩, rfl⟩

end Position

namespace Comparison

open Position

theorem wellFormed_restrict (c : Comparison) {g : GtidSet} (h : g.WellFormed) :
    (c.restrict g).WellFormed := by
  simp only [restrict]
  split
  · exact h.restrict _
  · exact h

theorem isWithin_restrict (c : Comparison) {g h : GtidSet} (hw : g.isWithin h = true) :
    (c.restrict g).isWithin (c.restrict h) = true := by
  simp only [restrict]
  split
  · exact GtidSet.isWithin_restrict hw _
  · exact hw

/-! ## Positions with sets -/

/-- The order of two sets of which the first lies within the second. -/
def inclusionOrder (c : Comparison) (g h : GtidSet) : Ordering :=
  if (c.restrict h).isWithin (c.restrict g) then .eq else .lt

/-- A position with a set comes at or before another when its set lies within the other's, and
the snapshots decide when the sets are the same. -/
theorem compare_some_some (c : Comparison) {a b : Position} {g h : GtidSet}
    (ha : a.gtids = some g) (hb : b.gtids = some h) {s : Standing} (hs : s.isLE = true) :
    c.compare a b = .ok s ↔ (c.restrict g).isWithin (c.restrict h) = true ∧
      .ofOrdering ((c.inclusionOrder g h).then (a.tieOrder b)) = s := by
  simp only [compare, ha, hb, Option.map_some, GtidSet.order?, inclusionOrder]
  cases (c.restrict g).isWithin (c.restrict h) with
  | true =>
    cases (c.restrict h).isWithin (c.restrict g) <;> simp [orTie_eq]
  | false =>
    cases (c.restrict h).isWithin (c.restrict g) <;>
      simp only [Bool.false_eq_true, false_and, iff_false, Except.ok.injEq] <;> rintro rfl <;>
      cases hs

theorem compare_none_some (c : Comparison) {a b : Position} (ha : a.gtids = none) {h : GtidSet}
    (hb : b.gtids = some h) : c.compare a b = .ok .before := by
  simp [compare, ha, hb]

theorem compare_some_none (c : Comparison) {a b : Position} {g : GtidSet} (ha : a.gtids = some g)
    (hb : b.gtids = none) : c.compare a b = .ok .after := by
  simp [compare, ha, hb]

theorem compare_none_none (c : Comparison) {a b : Position} (ha : a.gtids = none)
    (hb : b.gtids = none) : c.compare a b = a.orderWithoutGtids b := by
  simp [compare, ha, hb]

/-! ## Transitivity -/

/-- Two steps forward in a transitive order are one, and a strict one if either is. -/
theorem then_isLE_trans {α : Type} {cmp : α → α → Ordering} [Std.TransCmp cmp] {x y z : α}
    (hxy : (cmp x y).isLE = true) (hyz : (cmp y z).isLE = true) :
    (cmp x z).isLE = true ∧ (cmp x y = .lt ∨ cmp y z = .lt → cmp x z = .lt) := by
  refine ⟨Std.TransCmp.isLE_trans hxy hyz, ?_⟩
  rintro (h | h)
  · exact Std.TransCmp.lt_of_lt_of_isLE h hyz
  · exact Std.TransCmp.lt_of_isLE_of_lt hxy h

theorem compare_trans_of_gtids (c : Comparison) {a b d : Position} {g h k : GtidSet}
    (ha : a.gtids = some g) (hb : b.gtids = some h) (hd : d.gtids = some k)
    (hg : g.WellFormed) (hh : h.WellFormed) (hk : k.WellFormed) {s t : Standing}
    (h₁ : c.compare a b = .ok s) (hs : s.isLE = true) (h₂ : c.compare b d = .ok t)
    (ht : t.isLE = true) :
    ∃ u, c.compare a d = .ok u ∧ u.isLE = true ∧ (s = .before ∨ t = .before → u = .before) := by
  obtain ⟨hgh, rfl⟩ := (c.compare_some_some ha hb hs).1 h₁
  obtain ⟨hhk, rfl⟩ := (c.compare_some_some hb hd ht).1 h₂
  have hg := c.wellFormed_restrict hg
  have hh := c.wellFormed_restrict hh
  have hk := c.wellFormed_restrict hk
  have hgk := GtidSet.isWithin_trans hg hh hk hgh hhk
  by_cases hkg : (c.restrict k).isWithin (c.restrict g) = true
  · -- The last set lies within the first, so all three are the same and the snapshots decide.
    have hhg := GtidSet.isWithin_trans hh hk hg hhk hkg
    have hkh := GtidSet.isWithin_trans hk hg hh hkg hgh
    simp only [inclusionOrder, hhg, hkh, if_true, Ordering.eq_then,
      Standing.isLE_ofOrdering] at hs ht ⊢
    obtain ⟨hle, hlt⟩ := then_isLE_trans hs ht
    refine ⟨.ofOrdering (a.tieOrder d), ?_, ?_, ?_⟩
    · refine (c.compare_some_some ha hd ?_).2 ⟨hgk, ?_⟩
      · rwa [Standing.isLE_ofOrdering]
      · simp [inclusionOrder, hkg]
    · rwa [Standing.isLE_ofOrdering]
    · simpa only [Standing.ofOrdering_eq_before] using hlt
  · exact ⟨.before, (c.compare_some_some ha hd rfl).2 ⟨hgk, by simp [inclusionOrder, hkg]; rfl⟩,
      rfl, fun _ => rfl⟩

theorem compare_trans_of_log (c : Comparison) {a b d : Position} (ha : a.gtids = none)
    (hb : b.gtids = none) (hd : d.gtids = none) (hab : a.SharesServer b)
    (hbd : b.SharesServer d) (had : a.SharesServer d) {s t : Standing}
    (h₁ : c.compare a b = .ok s) (hs : s.isLE = true) (h₂ : c.compare b d = .ok t)
    (ht : t.isLE = true) :
    ∃ u, c.compare a d = .ok u ∧ u.isLE = true ∧ (s = .before ∨ t = .before → u = .before) := by
  rw [c.compare_none_none ha hb] at h₁
  rw [c.compare_none_none hb hd] at h₂
  obtain ⟨f, g, hf, hg, hfg, rfl⟩ := (orderWithoutGtids_eq_ok_iff hab).1 h₁
  obtain ⟨g', k, hg', hk, hgk, rfl⟩ := (orderWithoutGtids_eq_ok_iff hbd).1 h₂
  rw [hg, Option.some.injEq] at hg'
  subst hg'
  rw [Standing.isLE_ofOrdering] at hs ht
  obtain ⟨hle, hlt⟩ := then_isLE_trans hs ht
  refine ⟨.ofOrdering (logOrder (f, a) (k, d)), ?_, ?_, ?_⟩
  · rw [c.compare_none_none ha hd]
    exact (orderWithoutGtids_eq_ok_iff had).2 ⟨f, k, hf, hk, hfg.trans hgk, rfl⟩
  · rwa [Standing.isLE_ofOrdering]
  · simpa only [Standing.ofOrdering_eq_before] using hlt

/-- Of three positions, each at or before the next, the first is at or before the last. -/
theorem compare_trans (c : Comparison) {a b d : Position} (ha : a.WellFormed)
    (hb : b.WellFormed) (hd : d.WellFormed) (hab : a.SharesServer b) (hbd : b.SharesServer d)
    (had : a.SharesServer d) {s t : Standing} (h₁ : c.compare a b = .ok s) (hs : s.isLE = true)
    (h₂ : c.compare b d = .ok t) (ht : t.isLE = true) :
    ∃ u, c.compare a d = .ok u ∧ u.isLE = true ∧ (s = .before ∨ t = .before → u = .before) := by
  cases hga : a.gtids with
  | none =>
    cases hgd : d.gtids with
    | some k => exact ⟨.before, c.compare_none_some hga hgd, rfl, fun _ => rfl⟩
    | none =>
      cases hgb : b.gtids with
      | none => exact c.compare_trans_of_log hga hgb hgd hab hbd had h₁ hs h₂ ht
      | some h =>
        rw [c.compare_some_none hgb hgd] at h₂
        cases h₂
        cases ht
  | some g =>
    cases hgb : b.gtids with
    | none =>
      rw [c.compare_some_none hga hgb] at h₁
      cases h₁
      cases hs
    | some h =>
      cases hgd : d.gtids with
      | none =>
        rw [c.compare_some_none hgb hgd] at h₂
        cases h₂
        cases ht
      | some k =>
        exact c.compare_trans_of_gtids hga hgb hgd (ha g hga) (hb h hgb) (hd k hgd) h₁ hs h₂ ht

theorem isLE_eq_true_iff (c : Comparison) {a b : Position} :
    c.isLE a b = .ok true ↔ ∃ s, c.compare a b = .ok s ∧ s.isLE = true :=
  Outcome.map_ok_iff

/-- **The order within one server.** Of positions that were read, no two of which name different
servers, each at or before the next, the first is at or before the last: never an error, and
strictly before it if one of the two steps is strict. -/
theorem at_or_before_trans (c : Comparison) {a b d : Position} (ha : a.Parsed) (hb : b.Parsed)
    (hd : d.Parsed) (hab : a.SharesServer b) (hbd : b.SharesServer d) (had : a.SharesServer d)
    (h₁ : c.isLE a b = .ok true) (h₂ : c.isLE b d = .ok true) :
    c.isLE a d = .ok true ∧
      (c.compare a b = .ok .before ∨ c.compare b d = .ok .before →
        c.compare a d = .ok .before) := by
  obtain ⟨s, h₁, hs⟩ := c.isLE_eq_true_iff.1 h₁
  obtain ⟨t, h₂, ht⟩ := c.isLE_eq_true_iff.1 h₂
  obtain ⟨u, hu, hle, hstrict⟩ := c.compare_trans ha.wellFormed hb.wellFormed hd.wellFormed
    hab hbd had h₁ hs h₂ ht
  refine ⟨c.isLE_eq_true_iff.2 ⟨u, hu, hle⟩, ?_⟩
  simpa only [h₁, h₂, hu, Except.ok.injEq] using hstrict

/-- The begin of a log, where server 7 has executed the first transactions of `a`. -/
def afterFirst (last : UInt64) (duringSnapshot : Bool) : Position :=
  { Position.start ⟨"bin.000001", 4⟩ with
    gtids := some ⟨TextMap.empty.insert "a" ⟨[⟨1, last⟩]⟩⟩
    duringSnapshot
    serverId := some 7 }

/-- From a later file without a set to a snapshot with one, and to the end of that snapshot. -/
theorem at_or_before_trans_through_snapshot :
    unfiltered.isLE (.start ⟨"bin.000009", 4⟩) (afterFirst 3 true) = .ok true ∧
      unfiltered.isLE (afterFirst 3 true) (afterFirst 3 false) = .ok true ∧
      unfiltered.compare (.start ⟨"bin.000009", 4⟩) (afterFirst 3 false) = .ok .before := by
  have hparse : GtidSet.parse "a:1-3" = .ok ⟨TextMap.empty.insert "a" ⟨[⟨1, 3⟩]⟩⟩ := by cbv
  have hstart : Position.Parsed (.start ⟨"bin.000009", 4⟩) := fun g hg => by cases hg
  have hread : ∀ snapshot, Position.Parsed (afterFirst 3 snapshot) := fun snapshot g hg => by
    cases hg
    exact ⟨"a:1-3", hparse⟩
  have h₁ : unfiltered.isLE (.start ⟨"bin.000009", 4⟩) (afterFirst 3 true) = .ok true := by decide
  have h₂ : unfiltered.isLE (afterFirst 3 true) (afterFirst 3 false) = .ok true := by decide
  have hab : Position.SharesServer (.start ⟨"bin.000009", 4⟩) (afterFirst 3 true) :=
    fun s t hs _ => by cases hs
  have hbd : Position.SharesServer (afterFirst 3 true) (afterFirst 3 false) :=
    fun s t hs ht => Option.some.inj (hs.symm.trans ht)
  have had : Position.SharesServer (.start ⟨"bin.000009", 4⟩) (afterFirst 3 false) :=
    fun s t hs _ => by cases hs
  exact ⟨h₁, h₂, (at_or_before_trans unfiltered hstart (hread true) (hread false) hab hbd had
    h₁ h₂).2 (.inr (by decide))⟩

end Comparison

end BinlogCursor
