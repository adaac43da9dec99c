/-
The canonical form of interval lists: what `IntervalSet.ofList` computes, and what
the containment test answers on it.

`canonical_ofList` and `contains_ofList`: sorting a list and joining what touches gives
intervals with a gap between neighbours, which hold just the numbers of the list.
`coversBySearch_eq`: on such sets halving finds the candidate for an interval that going
through the set gives. `includes_iff`: the test by this single candidate is inclusion,
number by number. `Canonical.ext`: a canonical set is determined by its numbers.
`ofList_is_canonical_form` puts together what follows for the form of a list.
-/
import BinlogCursor.IntervalSet
import Mathlib.Data.List.Pairwise
import Mathlib.Data.List.Sort

namespace BinlogCursor

namespace Interval

theorem contains_first {i : Interval} (h : i.Valid) : i.contains i.first = true :=
  (i.contains_iff _).2 ⟨Nat.le_refl _, h⟩

/-- A merged interval starts where the first of its parts does. -/
theorem merge?_some {i j k : Interval} (h : i.merge? j = some k) (hi : i.Valid)
    (hij : i.first.toNat ≤ j.first.toNat) : k.Valid ∧ k.first = i.first := by
  obtain ⟨-, rfl⟩ := merge?_eq_some_iff.1 h
  have hfirst : min i.first j.first = i.first := by
    show (if i.first ≤ j.first then i.first else j.first) = _
    rw [if_pos (UInt64.le_iff_toNat_le.2 hij)]
  refine ⟨?_, hfirst⟩
  show (min i.first j.first).toNat ≤ (max i.last j.last).toNat
  rw [hfirst]
  refine Nat.le_trans hi ?_
  show i.last.toNat ≤ (if i.last ≤ j.last then j.last else i.last).toNat
  split
  · next hle => exact UInt64.le_iff_toNat_le.1 hle
  · exact Nat.le_refl _

/-- Of two intervals in order that do not merge, the second starts behind a gap. -/
theorem gap_of_merge?_none {i j : Interval} (h : i.merge? j = none) (hj : j.Valid)
    (hij : i.first.toNat ≤ j.first.toNat) : i.last.toNat + 1 < j.first.toNat := by
  have ht : ¬ i.touches j = true := fun ht => by
    simp [merge?, ht] at h
  rw [touches_iff] at ht
  have hj' : j.first.toNat ≤ j.last.toNat := hj
  omega

instance : Std.TransCmp order :=
  inferInstanceAs (Std.TransCmp (compareLex (compareOn Interval.first) (compareOn Interval.last)))

theorem first_le_of_atOrBefore {i j : Interval} (h : i.atOrBefore j = true) :
    i.first.toNat ≤ j.first.toNat := by
  simp only [atOrBefore, order, Ordering.isLE_then_iff_and] at h
  exact UInt64.le_iff_toNat_le.1 (Std.isLE_compare.1 h.1)

theorem pairwise_mergeSort (l : List Interval) :
    (l.mergeSort atOrBefore).Pairwise fun i j => i.first.toNat ≤ j.first.toNat := by
  have h : (l.mergeSort atOrBefore).Pairwise fun i j => i.atOrBefore j = true := by
    refine List.pairwise_mergeSort (fun i j k => ?_) (fun i j => ?_) l
    · exact Std.TransCmp.isLE_trans
    · simp only [atOrBefore, Bool.or_eq_true]
      have hswap : j.order i = (i.order j).swap := Std.OrientedCmp.eq_swap
      rw [hswap]
      cases i.order j <;> simp
  exact h.imp first_le_of_atOrBefore

end Interval

namespace IntervalSet

theorem contains_iff (s : IntervalSet) (n : UInt64) :
    s.contains n = true ↔ ∃ i ∈ s.intervals, i.contains n = true := by
  simp [contains]

/-! ## Joining what touches -/

/-- Joining keeps the numbers. -/
theorem contains_coalesce {current : Interval} {l : List Interval} (n : UInt64) :
    (∃ i ∈ coalesce current l, i.contains n = true) ↔
      ∃ i ∈ current :: l, i.contains n = true := by
  induction l generalizing current with
  | nil => simp [coalesce]
  | cons next rest ih =>
    simp only [coalesce]
    split
    · next joined h =>
      rw [ih]
      simp only [List.mem_cons, exists_eq_or_imp, Interval.contains_merge? h, or_assoc]
    · simp only [List.mem_cons, exists_eq_or_imp] at ih ⊢
      rw [ih]

/-- Joining starts no interval before the first. -/
theorem first_le_of_mem_coalesce {current : Interval} {l : List Interval}
    (hc : current.Valid) (hl : ∀ i ∈ l, current.first.toNat ≤ i.first.toNat)
    (hs : l.Pairwise fun i j => i.first.toNat ≤ j.first.toNat) (hv : ∀ i ∈ l, i.Valid)
    {i : Interval} (hi : i ∈ coalesce current l) : current.first.toNat ≤ i.first.toNat := by
  induction l generalizing current with
  | nil =>
    simp only [coalesce, List.mem_singleton] at hi
    exact hi ▸ Nat.le_refl _
  | cons next rest ih =>
    obtain ⟨hn, hs⟩ := List.pairwise_cons.1 hs
    have hcn := hl next (by simp)
    simp only [coalesce] at hi
    split at hi
    · next joined h =>
      obtain ⟨hj, hf⟩ := Interval.merge?_some h hc hcn
      rw [← hf]
      exact ih hj (fun j hj => hf ▸ hl j (by simp [hj])) hs (fun j hj => hv j (by simp [hj])) hi
    · rcases List.mem_cons.1 hi with rfl | hi
      · exact Nat.le_refl _
      · exact Nat.le_trans hcn (ih (hv next (by simp)) hn hs (fun j hj => hv j (by simp [hj])) hi)

/-- Joining the neighbours of an ordered list makes it canonical. -/
theorem canonical_coalesce {current : Interval} {l : List Interval} (hc : current.Valid)
    (hl : ∀ i ∈ l, current.first.toNat ≤ i.first.toNat)
    (hs : l.Pairwise fun i j => i.first.toNat ≤ j.first.toNat) (hv : ∀ i ∈ l, i.Valid) :
    Canonical ⟨coalesce current l⟩ := by
  induction l generalizing current with
  | nil => exact ⟨by simpa [coalesce] using hc, by simp [coalesce]⟩
  | cons next rest ih =>
    obtain ⟨hn, hs⟩ := List.pairwise_cons.1 hs
    have hcn := hl next (by simp)
    have hnext := hv next (by simp)
    have hv' : ∀ i ∈ rest, i.Valid := fun i hi => hv i (by simp [hi])
    simp only [coalesce]
    split
    · next joined h =>
      obtain ⟨hj, hf⟩ := Interval.merge?_some h hc hcn
      exact ih hj (fun i hi => hf ▸ hl i (by simp [hi])) hs hv'
    · next h =>
      obtain ⟨hvalid, hgaps⟩ := ih hnext hn hs hv'
      refine ⟨?_, List.pairwise_cons.2 ⟨fun i hi => ?_, hgaps⟩⟩
      · intro i hi
        rcases List.mem_cons.1 hi with rfl | hi
        · exact hc
        · exact hvalid i hi
      · exact Nat.lt_of_lt_of_le (Interval.gap_of_merge?_none h hnext hcn)
          (first_le_of_mem_coalesce hnext hn hs hv' hi)

/-- The form that is computed for a list of intervals is canonical. -/
theorem canonical_ofList {l : List Interval} (h : ∀ i ∈ l, i.Valid) : (ofList l).Canonical := by
  have hs := Interval.pairwise_mergeSort l
  have hv : ∀ i ∈ l.mergeSort Interval.atOrBefore, i.Valid := fun i hi =>
    h i (List.mem_mergeSort.1 hi)
  unfold ofList
  cases hl : l.mergeSort Interval.atOrBefore with
  | nil => exact ⟨by simp [joinTouching], by simp [joinTouching]⟩
  | cons i rest =>
    rw [hl] at hs hv
    obtain ⟨hi, hs⟩ := List.pairwise_cons.1 hs
    exact canonical_coalesce (hv i (by simp)) hi hs fun j hj => hv j (by simp [hj])

/-- It holds the numbers of the list. -/
theorem contains_ofList (l : List Interval) (n : UInt64) :
    (ofList l).contains n = true ↔ ∃ i ∈ l, i.contains n = true := by
  have hm : (∃ i ∈ l, i.contains n = true) ↔
      ∃ i ∈ l.mergeSort Interval.atOrBefore, i.contains n = true := by
    simp only [List.mem_mergeSort]
  rw [contains_iff, hm]
  unfold ofList
  cases l.mergeSort Interval.atOrBefore with
  | nil => simp [joinTouching]
  | cons i rest => exact contains_coalesce n

/-! ## Inclusion by a single candidate -/

/-- The last interval that starts at or before a number, by going through the set. -/
def candidate? (s : IntervalSet) (n : UInt64) : Option Interval :=
  (s.intervals.takeWhile (startsBy n)).getLast?

/-- One interval of the set covers the given one, by going through the set. -/
def coversInterval (s : IntervalSet) (needle : Interval) : Bool :=
  (s.candidate? needle.first).any (·.covers needle)

/-- The intervals of a canonical set start one behind the other. -/
theorem Canonical.pairwise_first_lt {s : IntervalSet} (h : s.Canonical) :
    s.intervals.Pairwise fun i j => i.first.toNat < j.first.toNat := by
  refine h.2.imp_of_mem fun {i j} hi _ hij => ?_
  have hv : i.first.toNat ≤ i.last.toNat := h.1 i hi
  omega

/-- The intervals of a canonical set that start at or before a number come first. -/
theorem divides_starts {s : IntervalSet} (h : s.Canonical) (n : UInt64) :
    Search.Divides (startsBy n) s.intervals := by
  refine Search.divides_of_pairwise (h.pairwise_first_lt.imp fun {i j} hij hj => ?_)
  simp only [startsBy, decide_eq_true_eq, UInt64.le_iff_toNat_le] at hj ⊢
  omega

/-- Halving finds the candidate. -/
theorem candidate?_eq_of_search {s : IntervalSet} (h : s.Canonical) (n : UInt64) :
    s.candidate? n = if s.startsUpTo n = 0 then none else s.intervals[s.startsUpTo n - 1]? := by
  have htake : s.candidate? n = (s.intervals.take (s.startsUpTo n)).getLast? :=
    congrArg List.getLast? (Search.partitionPoint_eq (divides_starts h n))
  have hle := s.startsUpTo_le n
  rw [htake, List.getLast?_eq_getElem?, List.length_take, Nat.min_eq_left hle]
  split
  · next hzero => simp [hzero]
  · next hpos => rw [List.getElem?_take_of_lt (by omega)]

theorem coversBySearch_eq {s : IntervalSet} (h : s.Canonical) (needle : Interval) :
    s.coversBySearch needle = s.coversInterval needle := by
  have hle := s.startsUpTo_le needle.first
  rw [coversInterval, candidate?_eq_of_search h, coversBySearch]
  by_cases hpos : 0 < s.startsUpTo needle.first
  · have hlt : s.startsUpTo needle.first - 1 < s.intervals.length := by omega
    simp [hpos, Nat.ne_of_gt hpos, List.getElem?_eq_getElem hlt]
  · have hzero : s.startsUpTo needle.first = 0 := by omega
    simp [hzero]

/-- The interval of an ordered list that covers another is the last that starts at or
before it. -/
theorem getLast?_takeWhile {l : List Interval} {i needle : Interval} (hv : ∀ j ∈ l, j.Valid)
    (hs : l.Pairwise fun i j => i.last.toNat + 1 < j.first.toNat) (hn : needle.Valid)
    (hi : i ∈ l) (hc : i.covers needle = true) :
    (l.takeWhile fun j => decide (j.first ≤ needle.first)).getLast? = some i := by
  have hc' := (Interval.covers_iff _ _).1 hc
  have hn' : needle.first.toNat ≤ needle.last.toNat := hn
  induction l with
  | nil => simp at hi
  | cons a r ih =>
    obtain ⟨ha, hr⟩ := List.pairwise_cons.1 hs
    rcases List.mem_cons.1 hi with rfl | hi
    · have hstop : r.takeWhile (fun j => decide (j.first ≤ needle.first)) = [] := by
        cases r with
        | nil => rfl
        | cons b r =>
          have hb := ha b (by simp)
          have hlt : ¬ b.first ≤ needle.first := by
            rw [UInt64.le_iff_toNat_le]
            omega
          simp [hlt]
      simp [UInt64.le_iff_toNat_le.2 hc'.1, hstop]
    · have hai := ha i hi
      have hva : a.first.toNat ≤ a.last.toNat := hv a (by simp)
      have hle : a.first ≤ needle.first := UInt64.le_iff_toNat_le.2 (by omega)
      rw [List.takeWhile_cons_of_pos (by simpa using hle), List.getLast?_cons,
        ih (fun j hj => hv j (by simp [hj])) hr hi]
      rfl

theorem coversInterval_iff_exists {s : IntervalSet} (h : s.Canonical) {needle : Interval}
    (hn : needle.Valid) :
    s.coversInterval needle = true ↔ ∃ i ∈ s.intervals, i.covers needle = true := by
  simp only [coversInterval, candidate?, Option.any_eq_true]
  constructor
  · rintro ⟨i, hi, hc⟩
    exact ⟨i, (List.takeWhile_sublist _).subset (List.mem_of_getLast? hi), hc⟩
  · rintro ⟨i, hi, hc⟩
    exact ⟨i, getLast?_takeWhile h.1 h.2 hn hi hc, hc⟩

/-- Two intervals of a canonical set that come within one of each other are the same. -/
theorem Canonical.eq_of_near {s : IntervalSet} (h : s.Canonical) {i j : Interval}
    (hi : i ∈ s.intervals) (hj : j ∈ s.intervals) (hij : i.first.toNat ≤ j.last.toNat + 1)
    (hji : j.first.toNat ≤ i.last.toNat + 1) : i = j := by
  have hvi : i.first.toNat ≤ i.last.toNat := h.1 i hi
  have hvj : j.first.toNat ≤ j.last.toNat := h.1 j hj
  by_contra hne
  have hfar : s.intervals.Pairwise fun a b =>
      a.last.toNat + 1 < b.first.toNat ∨ b.last.toNat + 1 < a.first.toNat := h.2.imp .inl
  have : Std.Symm fun a b : Interval =>
      a.last.toNat + 1 < b.first.toNat ∨ b.last.toNat + 1 < a.first.toNat := ⟨fun _ _ => Or.symm⟩
  have := hfar.forall hi hj hne
  omega

/-- An interval lies within one of a canonical set when all of its numbers are in the set: the
number behind the one at its start would else be missing. -/
theorem exists_covers_iff {s : IntervalSet} (h : s.Canonical) {needle : Interval}
    (hn : needle.Valid) :
    (∃ i ∈ s.intervals, i.covers needle = true) ↔
      ∀ n, needle.contains n = true → s.contains n = true := by
  constructor
  · rintro ⟨i, hi, hc⟩ n hin
    rw [Interval.covers_iff] at hc
    rw [Interval.contains_iff] at hin
    exact (contains_iff s n).2 ⟨i, hi, (Interval.contains_iff i n).2 (by omega)⟩
  · intro hall
    obtain ⟨i, hi, hin⟩ := (contains_iff s _).1 (hall _ (Interval.contains_first hn))
    rw [Interval.contains_iff] at hin
    refine ⟨i, hi, (Interval.covers_iff _ _).2 ⟨hin.1, ?_⟩⟩
    refine Nat.le_of_not_lt fun hlt => ?_
    have hbound := needle.last.toNat_lt
    have hnext : (UInt64.ofNat (i.last.toNat + 1)).toNat = i.last.toNat + 1 :=
      UInt64.toNat_ofNat_of_lt' (by show _ < 2 ^ 64; omega)
    have hmem : needle.contains (UInt64.ofNat (i.last.toNat + 1)) = true := by
      rw [Interval.contains_iff, hnext]
      omega
    obtain ⟨j, hj, hjn⟩ := (contains_iff s _).1 (hall _ hmem)
    rw [Interval.contains_iff, hnext] at hjn
    have hij : i = j := h.eq_of_near hi hj (by omega) (by omega)
    subst hij
    omega

theorem coversBySearch_iff {s : IntervalSet} (h : s.Canonical) {needle : Interval}
    (hn : needle.Valid) :
    s.coversBySearch needle = true ↔ ∀ n, needle.contains n = true → s.contains n = true := by
  rw [coversBySearch_eq h]
  exact (coversInterval_iff_exists h hn).trans (exists_covers_iff h hn)

/-- On canonical sets the containment test is inclusion, number by number. -/
theorem includes_iff {s t : IntervalSet} (hs : s.Canonical) (ht : ∀ i ∈ t.intervals, i.Valid) :
    s.includes t = true ↔ ∀ n, t.contains n = true → s.contains n = true := by
  simp only [includes, List.all_eq_true]
  constructor
  · intro h n hn
    obtain ⟨i, hi, hin⟩ := (contains_iff t n).1 hn
    exact (coversBySearch_iff hs (ht i hi)).1 (h i hi) n hin
  · intro h i hi
    exact (coversBySearch_iff hs (ht i hi)).2 fun n hn =>
      h n ((contains_iff t n).2 ⟨i, hi, hn⟩)

theorem includes_refl {s : IntervalSet} (hs : s.Canonical) : s.includes s = true :=
  (includes_iff hs hs.1).2 fun _ h => h

theorem includes_trans {s t u : IntervalSet} (hs : s.Canonical) (ht : t.Canonical)
    (hu : u.Canonical) (hst : s.includes t = true) (htu : t.includes u = true) :
    s.includes u = true :=
  (includes_iff hs hu.1).2 fun n hn =>
    (includes_iff hs ht.1).1 hst n ((includes_iff ht hu.1).1 htu n hn)

/-! ## One form for each set of numbers -/

/-- An interval of a canonical set is one of any other that has the same numbers. -/
theorem Canonical.mem_of_contains_iff {s t : IntervalSet} (hs : s.Canonical) (ht : t.Canonical)
    (h : ∀ n, s.contains n = true ↔ t.contains n = true) {i : Interval} (hi : i ∈ s.intervals) :
    i ∈ t.intervals := by
  have hvi : i.first.toNat ≤ i.last.toNat := hs.1 i hi
  obtain ⟨j, hj, hji⟩ := (exists_covers_iff ht (hs.1 i hi)).2 fun n hn =>
    (h n).1 ((contains_iff s n).2 ⟨i, hi, hn⟩)
  obtain ⟨k, hk, hkj⟩ := (exists_covers_iff hs (ht.1 j hj)).2 fun n hn =>
    (h n).2 ((contains_iff t n).2 ⟨j, hj, hn⟩)
  rw [Interval.covers_iff] at hji hkj
  -- `i` lies within `j`, and `j` within an interval of `s` that meets `i`: `i` itself.
  have hik : i = k := hs.eq_of_near hi hk (by omega) (by omega)
  subst hik
  have hij : i = j := by
    obtain ⟨i₁, i₂⟩ := i
    obtain ⟨j₁, j₂⟩ := j
    simp only [Interval.mk.injEq, ← UInt64.toNat_inj]
    simp only at hji hkj
    omega
  exact hij ▸ hj

/-- A canonical set is determined by its numbers. -/
theorem Canonical.ext {s t : IntervalSet} (hs : s.Canonical) (ht : t.Canonical)
    (h : ∀ n, s.contains n = true ↔ t.contains n = true) : s = t := by
  have : Std.Irrefl fun i j : Interval => i.first.toNat < j.first.toNat :=
    ⟨fun _ => Nat.lt_irrefl _⟩
  have : Std.Antisymm fun i j : Interval => i.first.toNat < j.first.toNat :=
    ⟨fun _ _ hij hji => absurd hij (Nat.lt_asymm hji)⟩
  have hmem : ∀ i, i ∈ s.intervals ↔ i ∈ t.intervals := fun i =>
    ⟨hs.mem_of_contains_iff ht h, ht.mem_of_contains_iff hs fun n => (h n).symm⟩
  have := hs.pairwise_first_lt.eq_of_mem_iff ht.pairwise_first_lt hmem
  cases s
  cases t
  simpa using this

/-- A canonical set is what is computed for its own intervals. -/
theorem Canonical.ofList_intervals {s : IntervalSet} (h : s.Canonical) :
    ofList s.intervals = s :=
  (canonical_ofList h.1).ext h fun n => (contains_ofList _ n).trans (contains_iff s n).symm

/-- The intervals of a canonical set are sorted. -/
theorem Canonical.sorted {s : IntervalSet} (h : s.Canonical) :
    s.intervals.Pairwise fun i j => i.order j = .lt := by
  refine h.pairwise_first_lt.imp fun {i j} hij => ?_
  have hfirst : compare i.first j.first = .lt := Std.compare_eq_lt.2 (UInt64.lt_iff_toNat_lt.2 hij)
  simp [Interval.order, hfirst]

/-! ## The form of a list -/

/-- A canonical set is computed for a list exactly when it holds the numbers of the list. -/
theorem Canonical.eq_ofList_iff {s : IntervalSet} (h : s.Canonical) {l : List Interval}
    (hl : ∀ i ∈ l, i.Valid) :
    s = ofList l ↔ ∀ n, s.contains n = true ↔ ∃ i ∈ l, i.contains n = true := by
  constructor
  · rintro rfl n
    exact contains_ofList l n
  · intro hn
    exact h.ext (canonical_ofList hl) fun n => (hn n).trans (contains_ofList l n).symm

/-- Two lists have one form when they cover the same numbers. -/
theorem ofList_eq_iff {l m : List Interval} (hl : ∀ i ∈ l, i.Valid) (hm : ∀ i ∈ m, i.Valid) :
    ofList l = ofList m ↔
      ∀ n, (∃ i ∈ l, i.contains n = true) ↔ ∃ i ∈ m, i.contains n = true := by
  rw [(canonical_ofList hl).eq_ofList_iff hm]
  simp only [contains_ofList]

/-- Of two lists, each can be brought into its form before they are put together. -/
theorem ofList_append {l m : List Interval} (hl : ∀ i ∈ l, i.Valid) (hm : ∀ i ∈ m, i.Valid) :
    ofList ((ofList l).intervals ++ (ofList m).intervals) = ofList (l ++ m) := by
  have hcl := canonical_ofList hl
  have hcm := canonical_ofList hm
  have hforms : ∀ i ∈ (ofList l).intervals ++ (ofList m).intervals, i.Valid := fun i hi =>
    (List.mem_append.1 hi).elim (hcl.1 i) (hcm.1 i)
  have hlists : ∀ i ∈ l ++ m, i.Valid := fun i hi => (List.mem_append.1 hi).elim (hl i) (hm i)
  refine (ofList_eq_iff hforms hlists).2 fun n => ?_
  simp only [List.mem_append, or_and_right, exists_or, ← contains_iff, contains_ofList]

/-- **The canonical form.** What is computed for a list of intervals, in whatever order and however
they overlap, is sorted, holds a number in each interval, lacks one between any two, and holds
exactly the numbers of the list; it is the only such set. So two lists cover the same numbers when
their forms are equal, a form is its own, and lists can be put together before or after they are
brought into form. -/
theorem ofList_is_canonical_form {l m : List Interval} (hl : ∀ i ∈ l, i.Valid)
    (hm : ∀ i ∈ m, i.Valid) :
    (ofList l).intervals.Pairwise (fun i j => i.order j = .lt) ∧
      (∀ i ∈ (ofList l).intervals, i.first ≤ i.last) ∧
      (ofList l).intervals.Pairwise (fun i j => i.last.toNat + 1 < j.first.toNat) ∧
      (∀ n, (ofList l).contains n = true ↔ ∃ i ∈ l, i.contains n = true) ∧
      (∀ s : IntervalSet, s.Canonical →
        (∀ n, s.contains n = true ↔ ∃ i ∈ l, i.contains n = true) → s = ofList l) ∧
      (ofList l = ofList m ↔
        ∀ n, (∃ i ∈ l, i.contains n = true) ↔ ∃ i ∈ m, i.contains n = true) ∧
      ofList (ofList l).intervals = ofList l ∧
      ofList ((ofList l).intervals ++ (ofList m).intervals) = ofList (l ++ m) := by
  have hc := canonical_ofList hl
  refine ⟨hc.sorted, fun i hi => UInt64.le_iff_toNat_le.2 (hc.1 i hi), hc.2, contains_ofList l,
    fun s hs => (hs.eq_ofList_iff hl).2, ofList_eq_iff hl hm, hc.ofList_intervals,
    ofList_append hl hm⟩

/-- Nested, touching and repeated intervals up to the greatest number, in no order. -/
def scattered : List Interval :=
  [⟨12, 40⟩, ⟨3, 3⟩, ⟨9, 0xFFFFFFFFFFFFFFFF⟩, ⟨1, 2⟩, ⟨3, 3⟩,
    ⟨0xFFFFFFFFFFFFFFFF, 0xFFFFFFFFFFFFFFFF⟩]

/-- They come down to two, and their order does not matter. -/
theorem ofList_is_canonical_form_of_scattered :
    ofList scattered = ⟨[⟨1, 3⟩, ⟨9, 0xFFFFFFFFFFFFFFFF⟩]⟩ ∧
      ofList scattered = ofList scattered.reverse := by
  obtain ⟨-, -, -, -, hunique, hsame, -⟩ := ofList_is_canonical_form (l := scattered)
    (m := scattered.reverse) (by decide) (by decide)
  refine ⟨(hunique _ (by decide) fun n => ?_).symm, hsame.2 fun n => by simp⟩
  have hn := n.toNat_lt
  simp [contains_iff, Interval.contains_iff, scattered]
  omega

end IntervalSet

end BinlogCursor
