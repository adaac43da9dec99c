/-
Halving: where a test divides a list, so that all elements up to some place pass it and none
behind, the place is found without going through the list.

`partitionPoint_le`: what is found is never outside of the list, whatever the test.
`partitionPoint_eq`: where the test divides the list (`Divides`), what stands before the place are
the elements that pass.
-/

namespace BinlogCursor.Search

variable {α : Type} (p : α → Bool) (l : List α)

/-- Looks for the place from `low` up to `high`. Each round halves what lies between these, so that
there need not be more rounds than elements. -/
def searchBetween : Nat → Nat → Nat → Nat
  | 0, low, _ => low
  | rounds + 1, low, high =>
    if low < high then
      let middle := low + (high - low) / 2
      if l[middle]?.any p then searchBetween rounds (middle + 1) high
      else searchBetween rounds low middle
    else low

def partitionPoint : Nat :=
  searchBetween p l l.length 0 l.length

/-- All elements before some place pass the test, and none from there on does. -/
def Divides : Prop :=
  ∃ k ≤ l.length, ∀ i (h : i < l.length), p l[i] = true ↔ i < k

variable {p l}

theorem searchBetween_le {rounds low high : Nat} (h : low ≤ high) :
    searchBetween p l rounds low high ≤ high := by
  fun_induction searchBetween p l rounds low high with
  | case1 low high => exact h
  | case2 rounds low high hlt middle hp ih =>
    have hmiddle : middle < high := by omega
    exact ih hmiddle
  | case3 rounds low high hlt middle hp ih =>
    have hmiddle : middle ≤ high := by omega
    exact Nat.le_trans (ih (by omega)) hmiddle
  | case4 rounds low high hlt => exact h

theorem partitionPoint_le (p : α → Bool) (l : List α) : partitionPoint p l ≤ l.length :=
  searchBetween_le (Nat.zero_le _)

theorem searchBetween_eq {k rounds low high : Nat}
    (hk : ∀ i (h : i < l.length), p l[i] = true ↔ i < k) (hrounds : high - low ≤ rounds)
    (hhigh : high ≤ l.length) (hlow : low ≤ k) (hkhigh : k ≤ high) :
    searchBetween p l rounds low high = k := by
  fun_induction searchBetween p l rounds low high with
  | case1 low high => omega
  | case2 rounds low high hlt middle hp ih =>
    have hmiddle : middle < l.length := by omega
    rw [List.getElem?_eq_getElem hmiddle, Option.any_some] at hp
    have hbefore : middle < k := (hk middle hmiddle).1 hp
    exact ih (by omega) hhigh hbefore hkhigh
  | case3 rounds low high hlt middle hp ih =>
    have hmiddle : middle < l.length := by omega
    rw [List.getElem?_eq_getElem hmiddle, Option.any_some] at hp
    have hbehind : ¬ middle < k := fun hm => hp ((hk middle hmiddle).2 hm)
    exact ih (by omega) (by omega) hlow (by omega)
  | case4 rounds low high hlt => omega

theorem take_eq_takeWhile {k : Nat} (hle : k ≤ l.length)
    (hk : ∀ i (h : i < l.length), p l[i] = true ↔ i < k) : l.takeWhile p = l.take k := by
  induction l generalizing k with
  | nil => simp
  | cons a r ih =>
    have hrest : ∀ i (h : i < r.length), p r[i] = true ↔ i + 1 < k := fun i h => by
      have := hk (i + 1) (by simpa using h)
      simpa using this
    cases k with
    | zero =>
      have ha : ¬ p a = true := fun h => by
        have := (hk 0 (by simp)).1 (by simpa using h)
        omega
      simp [ha]
    | succ k =>
      have ha : p a = true := (hk 0 (by simp)).2 (Nat.succ_pos k)
      have hr := ih (k := k) (by simpa using hle) fun i h => (hrest i h).trans (by omega)
      simp [ha, hr]

/-- **Halving.** Where a test divides a list, the place is found up to which elements pass it. -/
theorem partitionPoint_eq (h : Divides p l) : l.takeWhile p = l.take (partitionPoint p l) := by
  obtain ⟨k, hle, hk⟩ := h
  have hplace : partitionPoint p l = k :=
    searchBetween_eq hk (Nat.sub_le _ _) (Nat.le_refl _) (Nat.zero_le _) hle
  rw [hplace]
  exact take_eq_takeWhile hle hk

/-- A list is divided by a test which an element passes only if those before it do. -/
theorem divides_of_pairwise (h : l.Pairwise fun a b => p b = true → p a = true) : Divides p l := by
  induction l with
  | nil => exact ⟨0, Nat.le_refl _, fun i h => by simp at h⟩
  | cons a r ih =>
    obtain ⟨ha, hr⟩ := List.pairwise_cons.1 h
    by_cases hp : p a = true
    · obtain ⟨k, hle, hk⟩ := ih hr
      refine ⟨k + 1, by simpa using hle, fun i hi => ?_⟩
      cases i with
      | zero => simp [hp]
      | succ i => simpa using hk i (by simpa using hi)
    · -- Nothing behind an element that fails the test passes it.
      refine ⟨0, Nat.zero_le _, fun i hi => ?_⟩
      have hnone : ¬ p (a :: r)[i] = true := by
        cases i with
        | zero => exact hp
        | succ i =>
          intro hpi
          have hir : i < r.length := by simpa using hi
          have hmem : r[i] ∈ r := List.getElem_mem hir
          exact hp (ha _ hmem hpi)
      simp [hnone]

end BinlogCursor.Search
