/-
Intervals of transaction numbers, both ends included, and their text: one number,
or two joined by a hyphen.
Main statements: `contains_iff`, `covers_iff` and `touches_iff` say what the predicates
mean in natural numbers, `contains_merge?` that a merged interval holds what its parts
hold.
-/
import BinlogCursor.Fault
import BinlogCursor.Text.Decimal
import BinlogCursor.Text.Split

namespace BinlogCursor

/-- The numbers from `first` to `last`. -/
structure Interval where
  first : UInt64
  last : UInt64
deriving DecidableEq

namespace Interval

def Valid (i : Interval) : Prop :=
  i.first.toNat ≤ i.last.toNat

instance (i : Interval) : Decidable i.Valid :=
  inferInstanceAs (Decidable (_ ≤ _))

/-- The interval between two bounds, which must be in order. -/
def ofBounds (first last : UInt64) : Outcome Interval :=
  if last < first then .error (.format (.reversedInterval first last)) else .ok ⟨first, last⟩

def contains (i : Interval) (n : UInt64) : Bool :=
  decide (i.first ≤ n) && decide (n ≤ i.last)

/-- Another interval lies within this one. -/
def covers (i j : Interval) : Bool :=
  decide (i.first ≤ j.first) && decide (j.last ≤ i.last)

/-- The number behind another. Behind the greatest there is none, and it stays. -/
def behind (n : UInt64) : UInt64 :=
  if n = 0xFFFFFFFFFFFFFFFF then n else n + 1

/-- No number lies between the two intervals. -/
def touches (i j : Interval) : Bool :=
  decide (j.first ≤ behind i.last) && decide (i.first ≤ behind j.last)

/-- The smallest interval around two that overlap or touch. -/
def merge? (i j : Interval) : Option Interval :=
  if i.touches j then some ⟨min i.first j.first, max i.last j.last⟩ else none

/-- The order by first number, then by last. -/
def order (i j : Interval) : Ordering :=
  (compare i.first j.first).then (compare i.last j.last)

def atOrBefore (i j : Interval) : Bool :=
  (i.order j).isLE

def chars (i : Interval) : List Char :=
  if i.first = i.last then Text.digits i.first.toNat
  else Text.digits i.first.toNat ++ '-' :: Text.digits i.last.toNat

def text (i : Interval) : String :=
  String.ofList i.chars

/-- A bound of an interval: digits only, within 64 bits. -/
def readBound (segment bound : List Char) : Outcome UInt64 :=
  match (Text.natural? bound).bind Text.word64? with
  | some n => .ok n
  | none => .error (.format (.badInterval (String.ofList segment)))

def read (segment : List Char) : Outcome Interval :=
  match Text.cutFirst '-' segment with
  | some (low, high) => do
    let first ← readBound segment low
    let last ← readBound segment high
    ofBounds first last
  | none => do
    let only ← readBound segment segment
    pure ⟨only, only⟩

theorem contains_iff (i : Interval) (n : UInt64) :
    i.contains n = true ↔ i.first.toNat ≤ n.toNat ∧ n.toNat ≤ i.last.toNat := by
  simp [contains, UInt64.le_iff_toNat_le]

theorem covers_iff (i j : Interval) :
    i.covers j = true ↔ i.first.toNat ≤ j.first.toNat ∧ j.last.toNat ≤ i.last.toNat := by
  simp [covers, UInt64.le_iff_toNat_le]

/-- No number is greater than the greatest, so nothing is lost where that stays. -/
theorem le_behind_iff {m n : UInt64} : m ≤ behind n ↔ m.toNat ≤ n.toNat + 1 := by
  have hm := m.toNat_lt
  unfold behind
  split
  · next h =>
    subst h
    rw [UInt64.le_iff_toNat_le, show (0xFFFFFFFFFFFFFFFF : UInt64).toNat = 2 ^ 64 - 1 from rfl]
    omega
  · next h =>
    have hlt : n.toNat + 1 < 2 ^ 64 := by
      have hn := n.toNat_lt
      have hne : n.toNat ≠ 2 ^ 64 - 1 := fun he => h (UInt64.toNat_inj.1 he)
      omega
    rw [UInt64.le_iff_toNat_le, UInt64.toNat_add, show (1 : UInt64).toNat = 1 from rfl,
      Nat.mod_eq_of_lt hlt]

theorem touches_iff (i j : Interval) :
    i.touches j = true ↔
      j.first.toNat ≤ i.last.toNat + 1 ∧ i.first.toNat ≤ j.last.toNat + 1 := by
  simp [touches, le_behind_iff]

/-- Two intervals merge exactly when they touch. -/
theorem merge?_eq_some_iff {i j k : Interval} :
    i.merge? j = some k ↔
      i.touches j = true ∧ ⟨min i.first j.first, max i.last j.last⟩ = k := by
  unfold merge?
  by_cases h : i.touches j = true
  · rw [if_pos h, Option.some.injEq]
    exact ⟨fun hk => ⟨h, hk⟩, fun hk => hk.2⟩
  · rw [if_neg h]
    exact ⟨fun hk => by simp at hk, fun hk => absurd hk.1 h⟩

private theorem toNat_min (a b : UInt64) : (min a b).toNat = min a.toNat b.toNat := by
  show (if a ≤ b then a else b).toNat = _
  split <;> rename_i h <;> rw [UInt64.le_iff_toNat_le] at h <;> omega

private theorem toNat_max (a b : UInt64) : (max a b).toNat = max a.toNat b.toNat := by
  show (if a ≤ b then b else a).toNat = _
  split <;> rename_i h <;> rw [UInt64.le_iff_toNat_le] at h <;> omega

/-- A merged interval holds what its parts hold, and nothing else. -/
theorem contains_merge? {i j k : Interval} (h : i.merge? j = some k) (n : UInt64) :
    k.contains n = true ↔ i.contains n = true ∨ j.contains n = true := by
  obtain ⟨ht, rfl⟩ := merge?_eq_some_iff.1 h
  rw [touches_iff] at ht
  rw [contains_iff, contains_iff, contains_iff]
  show (min i.first j.first).toNat ≤ n.toNat ∧ n.toNat ≤ (max i.last j.last).toNat ↔ _
  rw [toNat_min, toNat_max]
  omega

end Interval

end BinlogCursor
