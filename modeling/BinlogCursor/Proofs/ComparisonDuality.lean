/-
Comparing two positions from either side.

`compare_swap`: whichever of the rules decides, the other way round the answer is the reverse, and
where there is none the two files are reported in the other order. `compare_self_iff` says which
positions are the same as themselves. `compare_dual` puts together what follows for the tests.
-/
import BinlogCursor.Proofs.ComparisonOrder
import BinlogCursor.Proofs.GtidOrder

namespace BinlogCursor

theorem Standing.reverse_ofOrdering (o : Ordering) :
    (ofOrdering o).reverse = ofOrdering o.swap := by
  cases o <;> rfl

/-! ## Places -/

namespace Place

/-- Two places have an order from both sides or from neither. -/
theorem order_swap (a b : Place) :
    (∃ o, a.order b = .ok o ∧ b.order a = .ok o.swap) ∨
      (a.order b = .error (.unrelatedFiles a.file b.file) ∧
        b.order a = .error (.unrelatedFiles b.file a.file)) := by
  cases hf : LogFile.parse? a.file with
  | none =>
    refine .inr ⟨by simp only [order, hf], ?_⟩
    cases hg : LogFile.parse? b.file <;> simp only [order, hf, hg]
  | some f =>
    cases hg : LogFile.parse? b.file with
    | none => exact .inr ⟨by simp only [order, hf, hg], by simp only [order, hf, hg]⟩
    | some g =>
      by_cases hs : f.stem = g.stem
      · refine .inl ⟨fileOrder (f, a.offset) (g, b.offset),
          order_eq_ok_iff.2 ⟨f, g, hf, hg, hs, rfl⟩,
          order_eq_ok_iff.2 ⟨g, f, hg, hf, hs.symm, ?_⟩⟩
        exact Std.OrientedCmp.eq_swap
      · refine .inr ⟨?_, ?_⟩
        · simp only [order, hf, hg, hs, if_false]
        · simp only [order, hf, hg, Ne.symm hs, if_false]

end Place

/-! ## Positions -/

namespace Position

theorem orTie_reverse (a b : Position) (o : Ordering) :
    (a.orTie b o).reverse = b.orTie a o.swap := by
  have hswap : b.tieOrder a = (a.tieOrder b).swap := Std.OrientedCmp.eq_swap
  rw [orTie_eq, orTie_eq, Standing.reverse_ofOrdering, Ordering.swap_then, hswap]

theorem onDifferentServers_comm (a b : Position) :
    a.onDifferentServers b = b.onDifferentServers a := by
  simp only [onDifferentServers]
  cases a.serverId with
  | none => cases b.serverId <;> rfl
  | some s =>
    cases b.serverId with
    | none => rfl
    | some t => exact bne_comm

theorem orderWithoutGtids_swap (a b : Position) :
    (∃ s, a.orderWithoutGtids b = .ok s ∧ b.orderWithoutGtids a = .ok s.reverse) ∨
      (a.orderWithoutGtids b = .error (.unrelatedFiles a.place.file b.place.file) ∧
        b.orderWithoutGtids a = .error (.unrelatedFiles b.place.file a.place.file)) := by
  simp only [orderWithoutGtids, b.onDifferentServers_comm a]
  cases a.onDifferentServers b with
  | true =>
    have hswap : compare (b.seconds.getD 0) (a.seconds.getD 0) =
        (compare (a.seconds.getD 0) (b.seconds.getD 0)).swap := Std.OrientedCmp.eq_swap
    refine .inl ⟨_, rfl, ?_⟩
    rw [orTie_reverse, ← hswap]
    rfl
  | false =>
    have hevents : compare b.eventsDone a.eventsDone =
        (compare a.eventsDone b.eventsDone).swap := Std.OrientedCmp.eq_swap
    have hrow : compare b.row a.row = (compare a.row b.row).swap := Std.OrientedCmp.eq_swap
    simp only [orderByPlace]
    rcases a.place.order_swap b.place with ⟨o, hab, hba⟩ | ⟨hab, hba⟩
    · refine .inl ⟨_, by rw [hab]; rfl, ?_⟩
      rw [hba, orTie_reverse, Ordering.swap_then, Ordering.swap_then, ← hevents, ← hrow]
      rfl
    · refine .inr ⟨?_, ?_⟩
      · rw [hab]
        rfl
      · rw [hba]
        rfl

theorem sharesServer_self (a : Position) : a.SharesServer a :=
  fun _ _ hs ht => Option.some.inj (hs.symm.trans ht)

theorem orderWithoutGtids_self_iff (a : Position) :
    a.orderWithoutGtids a = .ok .same ↔ LogFile.HasNumber a.place.file := by
  rw [orderWithoutGtids_eq_ok_iff a.sharesServer_self, ← LogFile.isSome_parse?_iff,
    Option.isSome_iff_exists]
  constructor
  · rintro ⟨f, -, hf, -⟩
    exact ⟨f, hf⟩
  · rintro ⟨f, hf⟩
    have hself : logOrder (f, a) (f, a) = .eq := Std.ReflCmp.compare_self
    exact ⟨f, f, hf, hf, rfl, by rw [hself]; rfl⟩

end Position

namespace Comparison

open Position

theorem compare_of_gtids (c : Comparison) {a b : Position} {g h : GtidSet}
    (ha : a.gtids = some g) (hb : b.gtids = some h) :
    c.compare a b =
      .ok (((c.restrict g).order? (c.restrict h)).elim .incomparable (a.orTie b)) := by
  simp only [compare, ha, hb, Option.map_some]
  split
  · next o ho => rw [ho]; rfl
  · next ho => rw [ho]; rfl

/-- From the other side the answer is the reverse, or the same two files have no order. -/
theorem compare_swap (c : Comparison) (a b : Position) :
    (∃ s, c.compare a b = .ok s ∧ c.compare b a = .ok s.reverse) ∨
      (c.compare a b = .error (.unrelatedFiles a.place.file b.place.file) ∧
        c.compare b a = .error (.unrelatedFiles b.place.file a.place.file)) := by
  cases ha : a.gtids with
  | none =>
    cases hb : b.gtids with
    | none =>
      rw [c.compare_none_none ha hb, c.compare_none_none hb ha]
      exact a.orderWithoutGtids_swap b
    | some h => exact .inl ⟨_, c.compare_none_some ha hb, c.compare_some_none hb ha⟩
  | some g =>
    cases hb : b.gtids with
    | none => exact .inl ⟨_, c.compare_some_none ha hb, c.compare_none_some hb ha⟩
    | some h =>
      refine .inl ⟨_, c.compare_of_gtids ha hb, ?_⟩
      rw [c.compare_of_gtids hb ha, GtidSet.order?_swap (c.restrict g)]
      cases (c.restrict g).order? (c.restrict h) with
      | none => rfl
      | some o => exact congrArg Except.ok (a.orTie_reverse b o).symm

/-- A position is the same as itself, unless all there is to compare is a file without a number. -/
theorem compare_self_iff (c : Comparison) {a : Position} (ha : a.WellFormed) :
    c.compare a a = .ok .same ↔ a.gtids.isSome = true ∨ LogFile.HasNumber a.place.file := by
  cases hg : a.gtids with
  | none =>
    rw [c.compare_none_none hg hg, orderWithoutGtids_self_iff]
    simp
  | some g =>
    have hrefl := GtidSet.isWithin_refl (c.wellFormed_restrict (ha g hg))
    have htie : a.tieOrder a = .eq := Std.ReflCmp.compare_self
    rw [c.compare_of_gtids hg hg, GtidSet.order?_eq_some_eq_iff.2 ⟨hrefl, hrefl⟩]
    simp [orTie_eq, htie, Standing.ofOrdering]

/-! ## The tests -/

theorem isLT_eq_ok_iff_isGT (c : Comparison) (a b : Position) (r : Bool) :
    c.isLT a b = .ok r ↔ c.isGT b a = .ok r := by
  simp only [isLT, isGT]
  rcases c.compare_swap a b with ⟨s, hab, hba⟩ | ⟨hab, hba⟩
  · rw [hab, hba]
    cases s <;> rfl
  · rw [hab, hba]
    simp [Except.map]

theorem not_isLT_and_isGT (c : Comparison) (a b : Position) :
    ¬ (c.isLT a b = .ok true ∧ c.isGT a b = .ok true) := by
  rintro ⟨hlt, hgt⟩
  obtain ⟨s, hs, hlt⟩ := Outcome.map_ok_iff.1 hlt
  obtain ⟨t, ht, hgt⟩ := Outcome.map_ok_iff.1 hgt
  rw [hs, Except.ok.injEq] at ht
  subst ht
  rw [beq_iff_eq] at hlt hgt
  rw [hlt] at hgt
  cases hgt

theorem compare_eq_incomparable_comm (c : Comparison) {a b : Position}
    (h : c.compare a b = .ok .incomparable) : c.compare b a = .ok .incomparable := by
  rcases c.compare_swap a b with ⟨s, hab, hba⟩ | ⟨hab, -⟩
  · rw [hab, Except.ok.injEq] at h
    subst h
    exact hba
  · rw [hab] at h
    cases h

/-- No test holds of positions without an order. -/
theorem tests_of_incomparable (c : Comparison) {a b : Position}
    (h : c.compare a b = .ok .incomparable) :
    ∀ test ∈ [c.isLE, c.isLT, c.isGT], test a b = .ok false := by
  intro test htest
  simp only [List.mem_cons, List.not_mem_nil, or_false] at htest
  rcases htest with rfl | rfl | rfl
  · rw [isLE, h]
    rfl
  · rw [isLT, h]
    rfl
  · rw [isGT, h]
    rfl

/-- **Comparison from either side.** Comparing `b` with `a` gives the reverse of comparing `a` with
`b`; if one of them fails so does the other, for two files without a common order, which each names
in its own order. So `a` is before `b` exactly when `b` is after `a`, never both before and after
it, and of positions without an order none of the tests holds from either side. A position with a
set, or in a file with a stem and a number, is the same as itself; any other is not. -/
theorem compare_dual (c : Comparison) (a b : Position) :
    ((∃ s, c.compare a b = .ok s ∧ c.compare b a = .ok s.reverse) ∨
        (c.compare a b = .error (.unrelatedFiles a.place.file b.place.file) ∧
          c.compare b a = .error (.unrelatedFiles b.place.file a.place.file))) ∧
      (∀ r, c.isLT a b = .ok r ↔ c.isGT b a = .ok r) ∧
      ¬ (c.isLT a b = .ok true ∧ c.isGT a b = .ok true) ∧
      (c.compare a b = .ok .incomparable → ∀ test ∈ [c.isLE, c.isLT, c.isGT],
        test a b = .ok false ∧ test b a = .ok false) ∧
      ((∀ g, a.gtids = some g → g.FromText) →
        (c.compare a a = .ok .same ↔
          a.gtids.isSome = true ∨ LogFile.HasNumber a.place.file)) := by
  refine ⟨c.compare_swap a b, c.isLT_eq_ok_iff_isGT a b, c.not_isLT_and_isGT a b,
    fun hnone test htest => ⟨?_, ?_⟩, fun ha => ?_⟩
  · exact c.tests_of_incomparable hnone test htest
  · exact c.tests_of_incomparable (c.compare_eq_incomparable_comm hnone) test htest
  · exact c.compare_self_iff fun g hg => (ha g hg).wellFormed

/-- Where two servers have executed what neither set holds of the other. -/
theorem compare_dual_without_order :
    ∃ a b : Position, unfiltered.compare a b = .ok .incomparable ∧
      unfiltered.isGT b a = .ok false ∧ unfiltered.compare a a = .ok .same := by
  have hread := GtidSet.parse_text (g := ⟨TextMap.empty.insert "a" ⟨[⟨1, 3⟩]⟩⟩) (by decide)
  refine ⟨afterFirst 3 false,
    { afterFirst 2 true with
      gtids := some ⟨(TextMap.empty.insert "a" ⟨[⟨1, 2⟩]⟩).insert "b" ⟨[⟨9, 9⟩]⟩⟩ }, ?_⟩
  obtain ⟨-, -, -, htests, hself⟩ := unfiltered.compare_dual (afterFirst 3 false)
    { afterFirst 2 true with
      gtids := some ⟨(TextMap.empty.insert "a" ⟨[⟨1, 2⟩]⟩).insert "b" ⟨[⟨9, 9⟩]⟩⟩ }
  have hnone := htests (by decide)
  refine ⟨by decide, (hnone unfiltered.isGT (by simp)).2, (hself fun g hg => ?_).2 (.inl rfl)⟩
  cases hg
  exact .parsed hread

end Comparison

end BinlogCursor
