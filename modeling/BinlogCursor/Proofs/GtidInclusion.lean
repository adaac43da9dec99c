/-
GTID sets as they are read from text, and their order.

`WellFormed.of_parse`: every set that was read has a name that can be written and canonical,
non-empty intervals for each server, and so has every restriction of one.
`isWithin_refl` and `isWithin_trans`: on sets with canonical intervals, inclusion is a
preorder.
-/
import BinlogCursor.Gtid.ServerFilter
import BinlogCursor.Proofs.CanonicalIntervals
import BinlogCursor.Proofs.GtidGrammar

namespace BinlogCursor

/-! ## Intervals that were read -/

namespace IntervalSet

theorem coalesce_ne_nil (current : Interval) (l : List Interval) : coalesce current l ≠ [] := by
  induction l generalizing current with
  | nil => simp [coalesce]
  | cons next rest ih =>
    simp only [coalesce]
    split
    · exact ih _
    · simp

theorem intervals_ofList_ne_nil {l : List Interval} (h : l ≠ []) : (ofList l).intervals ≠ [] := by
  have hl : l.mergeSort Interval.atOrBefore ≠ [] := fun hn => by
    have := congrArg List.length hn
    simp only [List.length_mergeSort, List.length_nil, List.length_eq_zero_iff] at this
    exact h this
  unfold ofList
  cases hs : l.mergeSort Interval.atOrBefore with
  | nil => exact absurd hs hl
  | cons i rest => exact coalesce_ne_nil i rest

/-- Intervals that are listed are canonical when they are put together, and there is one at
least. -/
theorem canonical_of_listed {cs : List Char} {l : List Interval}
    (h : Text.Listed ':' Interval.Spelled cs l) :
    (ofList l).Canonical ∧ (ofList l).intervals ≠ [] := by
  refine ⟨canonical_ofList fun i hi => ?_, intervals_ofList_ne_nil h.ne_nil⟩
  obtain ⟨piece, hp, -⟩ := h.exists_of_mem hi
  exact hp.valid

theorem canonical_union {s t : IntervalSet} (hs : s.Canonical) (ht : t.Canonical) :
    (s.union t).Canonical :=
  canonical_ofList fun i hi => (List.mem_append.1 hi).elim (hs.1 i) (ht.1 i)

theorem union_ne_nil {s t : IntervalSet} (h : s.intervals ≠ []) : (s.union t).intervals ≠ [] :=
  intervals_ofList_ne_nil fun hn => h (List.append_eq_nil_iff.1 hn).1

end IntervalSet

namespace GtidSet

/-! ## Sets that were read -/

/-- A name that can be written in a set: none of its characters ends it or is dropped. -/
def Name (server : String) : Prop :=
  server.toList ≠ [] ∧ ∀ c ∈ server.toList, Text.isBlank c = false ∧ c ≠ ',' ∧ c ≠ ':'

/-- What is known of a server and its intervals in a set that was read. -/
structure Entry (e : String × IntervalSet) : Prop where
  name : Name e.1
  canonical : e.2.Canonical
  nonempty : e.2.intervals ≠ []

/-- The form of the sets that are read from text. -/
def WellFormed (g : GtidSet) : Prop :=
  ∀ e ∈ g.servers.entries, Entry e

instance (server : String) : Decidable (Name server) :=
  @instDecidableAnd _ _ inferInstance (List.decidableBAll _ _)

instance (e : String × IntervalSet) : Decidable (Entry e) :=
  decidable_of_iff (Name e.1 ∧ e.2.Canonical ∧ e.2.intervals ≠ [])
    ⟨fun h => ⟨h.1, h.2.1, h.2.2⟩, fun h => ⟨h.name, h.canonical, h.nonempty⟩⟩

instance (g : GtidSet) : Decidable g.WellFormed :=
  List.decidableBAll Entry g.servers.entries

theorem WellFormed.of_intervalsOf? {g : GtidSet} (h : g.WellFormed) {server : String}
    {s : IntervalSet} (hs : g.intervalsOf? server = some s) : Entry (server, s) :=
  h _ ((TextMap.get?_eq_some_iff _ _ _).1 hs)

theorem wellFormed_empty : WellFormed empty := by
  intro e he
  exact absurd he List.not_mem_nil

theorem WellFormed.insert {m : TextMap IntervalSet} (h : WellFormed ⟨m⟩) {server : String}
    {s : IntervalSet} (he : Entry (server, s)) : WellFormed ⟨m.insert server s⟩ := by
  intro e hm
  rcases TextMap.mem_insertEntry hm with rfl | hm
  · exact he
  · exact h e hm

theorem WellFormed.add {g : GtidSet} (h : g.WellFormed) {server : String} {s : IntervalSet}
    (he : Entry (server, s)) : (g.add server s).WellFormed := by
  simp only [GtidSet.add]
  split
  · next present hp =>
    have hpe := h.of_intervalsOf? hp
    exact h.insert ⟨he.name, IntervalSet.canonical_union hpe.canonical he.canonical,
      IntervalSet.union_ne_nil hpe.nonempty⟩
  · exact h.insert he

theorem WellFormed.addAll {g : GtidSet} (h : g.WellFormed) {es : List (String × List Interval)}
    (hes : ∀ e ∈ es, Entry (e.1, IntervalSet.ofList e.2)) : (g.addAll es).WellFormed := by
  induction es generalizing g with
  | nil => exact h
  | cons e es ih =>
    rw [GtidSet.addAll, List.foldl_cons, ← GtidSet.addAll]
    exact ih (h.add (hes e (by simp))) fun f hf => hes f (by simp [hf])

/-- What an entry without blanks spells can be written. -/
theorem EntrySpelled.entry_ofList {cs : List Char} {e : String × List Interval}
    (h : EntrySpelled cs e) (hcs : ∀ c ∈ cs, Text.isBlank c = false) :
    Entry (e.1, IntervalSet.ofList e.2) := by
  cases h with
  | @entry server _ _ hne hcolon hcomma hranges =>
    obtain ⟨hcanonical, hnonempty⟩ := IntervalSet.canonical_of_listed hranges
    have hname : Name server := by
      refine ⟨hne, fun c hc => ⟨hcs c (by simp [hc]), ?_, ?_⟩⟩
      · exact fun he => hcomma (he ▸ hc)
      · exact fun he => hcolon (he ▸ hc)
    exact ⟨hname, hcanonical, hnonempty⟩

/-- Every set that was read is well formed. -/
theorem WellFormed.of_parse {text : String} {g : GtidSet} (h : parse text = .ok g) :
    g.WellFormed := by
  obtain ⟨es, hes, rfl⟩ := parse_eq_ok_iff.1 h
  refine wellFormed_empty.addAll fun e he => ?_
  have hblank : ∀ c ∈ Text.squeeze text.toList, Text.isBlank c = false :=
    fun c hc => Text.not_isBlank_of_mem_squeeze hc
  generalize Text.squeeze text.toList = cs at hes hblank
  cases hes with
  | blank => exact absurd he List.not_mem_nil
  | entries hl =>
    obtain ⟨piece, hp, hsub⟩ := hl.exists_of_mem he
    exact hp.entry_ofList fun c hc => hblank c (hsub hc)

theorem WellFormed.restrict {g : GtidSet} (h : g.WellFormed) (keep : String → Bool) :
    (g.restrict keep).WellFormed :=
  fun e he => h e (List.mem_filter.1 he).1

/-! ## Inclusion -/

theorem isWithin_iff_intervalsOf? (a b : GtidSet) :
    a.isWithin b = true ↔ ∀ server s, a.intervalsOf? server = some s →
      ∃ t, b.intervalsOf? server = some t ∧ t.includes s = true := by
  simp only [isWithin, List.all_eq_true, Option.any_eq_true]
  constructor
  · intro h server s hs
    exact h (server, s) ((TextMap.get?_eq_some_iff _ _ _).1 hs)
  · intro h e he
    exact h e.1 e.2 ((TextMap.get?_eq_some_iff _ _ _).2 he)

theorem isWithin_refl {g : GtidSet} (h : g.WellFormed) : g.isWithin g = true :=
  (isWithin_iff_intervalsOf? g g).2 fun _ s hs =>
    ⟨s, hs, IntervalSet.includes_refl (h.of_intervalsOf? hs).canonical⟩

theorem isWithin_trans {a b c : GtidSet} (ha : a.WellFormed) (hb : b.WellFormed)
    (hc : c.WellFormed) (hab : a.isWithin b = true) (hbc : b.isWithin c = true) :
    a.isWithin c = true := by
  rw [isWithin_iff_intervalsOf?] at hab hbc ⊢
  intro server s hs
  obtain ⟨t, ht, hts⟩ := hab server s hs
  obtain ⟨u, hu, hut⟩ := hbc server t ht
  exact ⟨u, hu, IntervalSet.includes_trans (hc.of_intervalsOf? hu).canonical
    (hb.of_intervalsOf? ht).canonical (ha.of_intervalsOf? hs).canonical hut hts⟩

/-- Inclusion is kept when both sets are restricted to the same servers. -/
theorem isWithin_restrict {a b : GtidSet} (h : a.isWithin b = true) (keep : String → Bool) :
    (a.restrict keep).isWithin (b.restrict keep) = true := by
  rw [isWithin_iff_intervalsOf?] at h ⊢
  intro server s hs
  simp only [intervalsOf?, GtidSet.restrict, TextMap.get?_filter] at hs ⊢
  split at hs
  · next hk =>
    rw [if_pos hk]
    exact h server s hs
  · cases hs

end GtidSet

end BinlogCursor
