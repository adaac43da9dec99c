/-
Decimal notation of natural numbers: the digits written for a number and the
number read from digits, with or without a bound on its width.
Main statements: what is written is read back (`natural?_digits`), and what is
read is the value of a non-empty run of the digits 0 to 9 (`natural?_eq_some_iff`).
-/

namespace BinlogCursor.Text

def isDigit (c : Char) : Bool :=
  '0' ≤ c && c ≤ '9'

/-- The digits of a number, without leading zeros. -/
def digits (n : Nat) : List Char :=
  Nat.toDigits 10 n

def digitsValue (cs : List Char) : Nat :=
  Nat.ofDigitChars 10 cs 0

/-- The number written by a non-empty run of digits; nothing else may stand in the text. -/
def natural? (cs : List Char) : Option Nat :=
  if cs.isEmpty || !cs.all isDigit then none else some (digitsValue cs)

/-- A number that may be preceded by one plus sign. -/
def unsigned? : List Char → Option Nat
  | '+' :: cs => natural? cs
  | cs => natural? cs

def word64? (n : Nat) : Option UInt64 :=
  if n < UInt64.size then some (UInt64.ofNat n) else none

def word32? (n : Nat) : Option UInt32 :=
  if n < UInt32.size then some (UInt32.ofNat n) else none

theorem isDigit_of_mem_digits {n : Nat} {c : Char} (h : c ∈ digits n) : isDigit c = true := by
  have := Nat.isDigit_of_mem_toDigits (by decide) (by decide) h
  simp only [Char.isDigit, Bool.and_eq_true, decide_eq_true_eq] at this
  simp only [isDigit, Bool.and_eq_true, decide_eq_true_eq]
  exact this

theorem bounds_of_isDigit {c : Char} (h : isDigit c = true) : 48 ≤ c.toNat ∧ c.toNat ≤ 57 := by
  simp only [isDigit, Bool.and_eq_true, decide_eq_true_eq, Char.le_def,
    UInt32.le_iff_toNat_le] at h
  exact h

theorem digits_ne_nil (n : Nat) : digits n ≠ [] :=
  Nat.toDigits_ne_nil

theorem digitsValue_digits (n : Nat) : digitsValue (digits n) = n :=
  Nat.ofDigitChars_ten_toDigits

theorem natural?_eq_some_iff {cs : List Char} {n : Nat} :
    natural? cs = some n ↔ cs ≠ [] ∧ (∀ c ∈ cs, isDigit c = true) ∧ digitsValue cs = n := by
  simp only [natural?]
  split
  · rename_i h
    simp only [Bool.or_eq_true, List.isEmpty_iff, Bool.not_eq_true', List.all_eq_false] at h
    simp only [reduceCtorEq, false_iff, not_and]
    rintro hne hall
    rcases h with h | ⟨c, hc, hd⟩
    · exact absurd h hne
    · exact absurd (hall c hc) hd
  · rename_i h
    simp only [Bool.or_eq_true, List.isEmpty_iff, Bool.not_eq_true', not_or,
      Bool.not_eq_false, List.all_eq_true] at h
    simp only [Option.some.injEq]
    exact ⟨fun e => ⟨h.1, h.2, e⟩, fun e => e.2.2⟩

theorem natural?_digits (n : Nat) : natural? (digits n) = some n :=
  natural?_eq_some_iff.mpr ⟨digits_ne_nil n, fun _ => isDigit_of_mem_digits, digitsValue_digits n⟩

theorem unsigned?_digits (n : Nat) : unsigned? (digits n) = some n := by
  unfold unsigned?
  split
  · rename_i cs h
    have : isDigit '+' = true := isDigit_of_mem_digits (n := n) (by simp [h])
    exact absurd this (by decide)
  · exact natural?_digits n

theorem word64?_toNat (w : UInt64) : word64? w.toNat = some w := by
  have := w.toNat_lt
  simp [word64?, this]

theorem word64?_eq_some_iff {n : Nat} {w : UInt64} : word64? n = some w ↔ n = w.toNat := by
  constructor
  · intro h
    unfold word64? at h
    split at h
    · next hlt =>
      cases h
      exact (UInt64.toNat_ofNat_of_lt' hlt).symm
    · cases h
  · rintro rfl
    exact word64?_toNat w

theorem word32?_toNat (w : UInt32) : word32? w.toNat = some w := by
  have := w.toNat_lt
  simp [word32?, this]

end BinlogCursor.Text
