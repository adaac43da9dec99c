/-
Log files in the order of their numbers.

`Text.compare_digitsValue_of_length_eq` and `Text.digitsValue_lt_of_length_lt`: of two runs of
digits without leading zeros the longer writes the greater number, and of two of one length the one
that is the greater text does. So the extensions of two files are compared as numbers of any size
(`LogFile.compareNumber_eq`). `Place.order_is_numeric`: two places have an order exactly when their
files share a stem, and it is the one by number, then by offset.
-/
import Mathlib.Algebra.Group.Nat.Defs
import BinlogCursor.Proofs.PlaceOrder

namespace BinlogCursor

/-! ## Digits -/

namespace Text

/-- The number that one digit writes. -/
def digitValue (c : Char) : Nat :=
  c.toNat - 48

theorem digitsValue_cons (c : Char) (ds : List Char) :
    digitsValue (c :: ds) = 10 ^ ds.length * digitValue c + digitsValue ds := by
  simp only [digitsValue, Nat.ofDigitChars_cons, Nat.mul_zero, Nat.zero_add]
  exact Nat.ofDigitChars_eq_ofDigitChars_zero

theorem digitsValue_lt {ds : List Char} (h : ∀ c ∈ ds, isDigit c = true) :
    digitsValue ds < 10 ^ ds.length := by
  induction ds with
  | nil => decide
  | cons c ds ih =>
    have hds := ih fun d hd => h d (by simp [hd])
    have hc : digitValue c + 1 ≤ 10 := by
      have := bounds_of_isDigit (h c (by simp))
      unfold digitValue
      omega
    rw [digitsValue_cons, List.length_cons]
    calc 10 ^ ds.length * digitValue c + digitsValue ds
        < 10 ^ ds.length * digitValue c + 10 ^ ds.length := Nat.add_lt_add_left hds _
      _ = 10 ^ ds.length * (digitValue c + 1) := (Nat.mul_succ ..).symm
      _ ≤ 10 ^ ds.length * 10 := Nat.mul_le_mul_left _ hc
      _ = 10 ^ (ds.length + 1) := (Nat.pow_succ ..).symm

theorem compare_congr {a b c d : Nat} (hlt : a < b ↔ c < d) (hgt : b < a ↔ d < c) :
    compare a b = compare c d := by
  rcases Nat.lt_trichotomy c d with h | h | h
  · rw [Nat.compare_eq_lt.2 h, Nat.compare_eq_lt.2 (hlt.2 h)]
  · have hab : a = b := by omega
    rw [Nat.compare_eq_eq.2 h, Nat.compare_eq_eq.2 hab]
  · rw [Nat.compare_eq_gt.2 h, Nat.compare_eq_gt.2 (hgt.2 h)]

/-- Digits are ordered as the numbers that they write. -/
theorem compare_digitValue {c d : Char} (hc : isDigit c = true) (hd : isDigit d = true) :
    compare (digitValue c) (digitValue d) = compare c d := by
  have hchar : compare c d = compare c.toNat d.toNat := by
    simp [compare, compareOfLessAndEq, Char.lt_def, UInt32.lt_iff_toNat_lt, ← Char.toNat_inj]
  have hc := bounds_of_isDigit hc
  have hd := bounds_of_isDigit hd
  rw [hchar]
  unfold digitValue
  exact compare_congr (by omega) (by omega)

/-- The units decide before what is less than one unit. -/
theorem compare_mul_add {unit v w x y : Nat} (hx : x < unit) (hy : y < unit) :
    compare (unit * v + x) (unit * w + y) = (compare v w).then (compare x y) := by
  rcases Nat.lt_trichotomy v w with h | rfl | h
  · have hle : unit * (v + 1) ≤ unit * w := Nat.mul_le_mul_left unit h
    rw [Nat.mul_succ] at hle
    rw [Nat.compare_eq_lt.2 h, Nat.compare_eq_lt.2 (by omega)]
    rfl
  · rw [Nat.compare_eq_eq.2 rfl, Ordering.eq_then]
    exact compare_congr (by omega) (by omega)
  · have hle : unit * (w + 1) ≤ unit * v := Nat.mul_le_mul_left unit h
    rw [Nat.mul_succ] at hle
    rw [Nat.compare_eq_gt.2 h, Nat.compare_eq_gt.2 (by omega)]
    rfl

/-- Of one length, runs of digits are ordered as texts. -/
theorem compare_digitsValue_of_length_eq {ds es : List Char} (hd : ∀ c ∈ ds, isDigit c = true)
    (he : ∀ c ∈ es, isDigit c = true) (h : ds.length = es.length) :
    compare (digitsValue ds) (digitsValue es) = compare ds es := by
  induction ds generalizing es with
  | nil =>
    cases es with
    | nil => rfl
    | cons e es => simp at h
  | cons d ds ih =>
    cases es with
    | nil => simp at h
    | cons e es =>
      have hds : ∀ c ∈ ds, isDigit c = true := fun c hc => hd c (by simp [hc])
      have hes : ∀ c ∈ es, isDigit c = true := fun c hc => he c (by simp [hc])
      have hlen : ds.length = es.length := by simpa using h
      rw [digitsValue_cons, digitsValue_cons, ← hlen,
        compare_mul_add (digitsValue_lt hds) (hlen ▸ digitsValue_lt hes), ih hds hes hlen,
        compare_digitValue (hd d (by simp)) (he e (by simp)), List.compare_cons_cons]

/-! ## Leading zeros -/

/-- Zeros in front do not count. -/
theorem digitsValue_dropWhile (ds : List Char) :
    digitsValue (ds.dropWhile (· = '0')) = digitsValue ds := by
  induction ds with
  | nil => rfl
  | cons c ds ih =>
    by_cases hc : c = '0'
    · subst hc
      rw [List.dropWhile_cons_of_pos (by decide), ih, digitsValue_cons]
      simp [digitValue]
    · rw [List.dropWhile_cons_of_neg (by simpa using hc)]

theorem head?_dropWhile_ne (ds : List Char) : (ds.dropWhile (· = '0')).head? ≠ some '0' := by
  intro h
  have hnot := List.head?_dropWhile_not (fun c => decide (c = '0')) ds
  rw [h] at hnot
  simp at hnot

theorem digitsValue_replicate_append (zeros : Nat) (ds : List Char) :
    digitsValue (List.replicate zeros '0' ++ ds) = digitsValue ds := by
  induction zeros with
  | zero => rfl
  | succ zeros ih =>
    rw [List.replicate_succ, List.cons_append, digitsValue_cons, ih]
    simp [digitValue]

/-- Without a zero in front, the longer run of digits writes the greater number. -/
theorem digitsValue_lt_of_length_lt {ds es : List Char} (hd : ∀ c ∈ ds, isDigit c = true)
    (he : ∀ c ∈ es, isDigit c = true) (hzero : es.head? ≠ some '0')
    (h : ds.length < es.length) : digitsValue ds < digitsValue es := by
  cases es with
  | nil => simp at h
  | cons e es =>
    have hpos : 1 ≤ digitValue e := by
      have hbounds := bounds_of_isDigit (he e (by simp))
      have hne : e.toNat ≠ 48 := fun h => hzero (congrArg some (Char.toNat_inj.1 h))
      unfold digitValue
      omega
    calc digitsValue ds < 10 ^ ds.length := digitsValue_lt hd
      _ ≤ 10 ^ es.length := Nat.pow_le_pow_right (by decide) (Nat.le_of_lt_succ h)
      _ ≤ 10 ^ es.length * digitValue e := Nat.le_mul_of_pos_right _ hpos
      _ ≤ digitsValue (e :: es) := by
        rw [digitsValue_cons]
        exact Nat.le_add_right _ _

end Text

/-! ## Files -/

namespace LogFile

/-- The extensions of two files are compared as the numbers that they write, of any size. -/
theorem compareNumber_eq {f g : LogFile} (hf : ∀ c ∈ f.extension, Text.isDigit c = true)
    (hg : ∀ c ∈ g.extension, Text.isDigit c = true) :
    f.compareNumber g =
      compare (Text.digitsValue f.extension) (Text.digitsValue g.extension) := by
  have hf' : ∀ c ∈ f.significant, Text.isDigit c = true := fun c hc =>
    hf c ((List.dropWhile_sublist _).subset hc)
  have hg' : ∀ c ∈ g.significant, Text.isDigit c = true := fun c hc =>
    hg c ((List.dropWhile_sublist _).subset hc)
  rw [← Text.digitsValue_dropWhile f.extension, ← Text.digitsValue_dropWhile g.extension]
  show (compare f.significant.length g.significant.length).then _ =
    compare (Text.digitsValue f.significant) (Text.digitsValue g.significant)
  rcases Nat.lt_trichotomy f.significant.length g.significant.length with h | h | h
  · have hlt := Text.digitsValue_lt_of_length_lt hf' hg' (Text.head?_dropWhile_ne _) h
    rw [Nat.compare_eq_lt.2 h, Nat.compare_eq_lt.2 hlt]
    rfl
  · rw [Nat.compare_eq_eq.2 h, Text.compare_digitsValue_of_length_eq hf' hg' h]
    rfl
  · have hlt := Text.digitsValue_lt_of_length_lt hg' hf' (Text.head?_dropWhile_ne _) h
    rw [Nat.compare_eq_gt.2 h, Nat.compare_eq_gt.2 hlt]
    rfl

/-- Two names differ in their digits alone. -/
def Related (left right : String) : Prop :=
  ∃ stem m n, Named left stem m ∧ Named right stem n

theorem related_of_parse? {left right : String} {f g : LogFile} (hf : parse? left = some f)
    (hg : parse? right = some g) (hs : f.stem = g.stem) : Related left right :=
  ⟨f.stem, f.extension, g.extension, parse?_eq_some_iff.1 hf, hs ▸ parse?_eq_some_iff.1 hg⟩

/-- The name of a file with more zeros before its digits. -/
def padded (stem : List Char) (zeros : Nat) (number : List Char) : String :=
  String.ofList (stem ++ '.' :: (List.replicate zeros '0' ++ number))

theorem Named.padded {name : String} {stem number : List Char} (h : Named name stem number)
    (zeros : Nat) : Named (padded stem zeros number) stem (List.replicate zeros '0' ++ number) := by
  obtain ⟨-, hstem, hnumber, hdigits⟩ := h
  refine ⟨by simp [LogFile.padded], hstem, by simp [hnumber], fun c hc => ?_⟩
  rcases List.mem_append.1 hc with hc | hc
  · rw [List.eq_of_mem_replicate hc]
    decide
  · exact hdigits c hc

end LogFile

namespace Place

open LogFile

theorem order_of_named {a b : Place} {stem m n : List Char} (ha : Named a.file stem m)
    (hb : Named b.file stem n) :
    a.order b = .ok ((compare (Text.digitsValue m) (Text.digitsValue n)).then
      (compare a.offset b.offset)) := by
  refine order_eq_ok_iff.2 ⟨⟨stem, m⟩, ⟨stem, n⟩, parse?_eq_some_iff.2 ha,
    parse?_eq_some_iff.2 hb, rfl, ?_⟩
  have hnumber : compareNumber ⟨stem, m⟩ ⟨stem, n⟩ =
      compare (Text.digitsValue m) (Text.digitsValue n) := compareNumber_eq ha.2.2.2 hb.2.2.2
  rw [← hnumber]
  rfl

theorem order_of_not_related {a b : Place} (h : ¬ Related a.file b.file) :
    a.order b = .error (.unrelatedFiles a.file b.file) := by
  unfold order
  split
  · next f g hf hg =>
    have hstem : ¬ f.stem = g.stem := fun hs => h (related_of_parse? hf hg hs)
    rw [if_neg hstem]
  · rfl

/-- The number of a file, if it fits into a word, is what its digits write. -/
theorem digitsValue_of_number? {a : Place} {f : LogFile} {i : UInt64}
    (hf : LogFile.parse? a.file = some f) (hi : a.number? = some i) :
    Text.digitsValue f.extension = i.toNat := by
  simp only [number?, hf, Option.bind_some, LogFile.number?, Option.bind_eq_some_iff,
    Text.natural?_eq_some_iff, Text.word64?_eq_some_iff] at hi
  obtain ⟨_, ⟨-, -, rfl⟩, hvalue⟩ := hi
  exact hvalue

theorem compare_toNat (i j : UInt64) : compare i.toNat j.toNat = compare i j := by
  simp [compare, compareOfLessAndEq, UInt64.lt_iff_toNat_lt, ← UInt64.toNat_inj]

/-- **The order of places.** Two places have an order exactly when the names of their files are
written with the same stem, whatever digits follow; otherwise the two names are reported. The order
is that of the numbers that the digits write, of any size, and of the offsets within one number, so
zeros in front of the digits do not matter. If both numbers fit into a word, these words decide. -/
theorem order_is_numeric (a b : Place) :
    ((∃ o, a.order b = .ok o) ↔ Related a.file b.file) ∧
      (¬ Related a.file b.file → a.order b = .error (.unrelatedFiles a.file b.file)) ∧
      (∀ stem m n, Named a.file stem m → Named b.file stem n →
        a.order b = .ok ((compare (Text.digitsValue m) (Text.digitsValue n)).then
            (compare a.offset b.offset)) ∧
          ∀ i j, order ⟨padded stem i m, a.offset⟩ ⟨padded stem j n, b.offset⟩ = a.order b) ∧
      ∀ o i j, a.order b = .ok o → a.number? = some i → b.number? = some j →
        o = (compare i j).then (compare a.offset b.offset) := by
  refine ⟨⟨fun ⟨o, ho⟩ => ?_, fun ⟨stem, m, n, hm, hn⟩ => ⟨_, order_of_named hm hn⟩⟩,
    order_of_not_related, fun stem m n hm hn => ⟨order_of_named hm hn, fun i j => ?_⟩,
    fun o i j ho hi hj => ?_⟩
  · obtain ⟨f, g, hf, hg, hs, -⟩ := order_eq_ok_iff.1 ho
    exact related_of_parse? hf hg hs
  · have hpadded := order_of_named (a := ⟨padded stem i m, a.offset⟩)
      (b := ⟨padded stem j n, b.offset⟩) (hm.padded i) (hn.padded j)
    simp only [Text.digitsValue_replicate_append] at hpadded
    exact hpadded.trans (order_of_named hm hn).symm
  · obtain ⟨f, g, hf, hg, hs, -⟩ := order_eq_ok_iff.1 ho
    have hnamed := order_of_named (parse?_eq_some_iff.1 hf) (hs ▸ parse?_eq_some_iff.1 hg)
    rw [ho, Except.ok.injEq] at hnamed
    rw [hnamed, digitsValue_of_number? hf hi, digitsValue_of_number? hg hj, compare_toNat]

/-- Numbers around the greatest word, with and without zeros in front, behind a stem with a dot. -/
theorem order_is_numeric_beyond_words :
    order ⟨"my.bin.18446744073709551616", 4⟩ ⟨"my.bin.18446744073709551615", 900⟩ = .ok .gt ∧
      order ⟨"my.bin.00018446744073709551616", 4⟩ ⟨"my.bin.018446744073709551615", 900⟩ =
        .ok .gt := by
  obtain ⟨-, -, hordered, -⟩ := order_is_numeric ⟨"my.bin.18446744073709551616", 4⟩
    ⟨"my.bin.18446744073709551615", 900⟩
  have hm : Named "my.bin.18446744073709551616" "my.bin".toList "18446744073709551616".toList :=
    (parse?_eq_some_iff (f := ⟨_, _⟩)).1 (by decide)
  have hn : Named "my.bin.18446744073709551615" "my.bin".toList "18446744073709551615".toList :=
    (parse?_eq_some_iff (f := ⟨_, _⟩)).1 (by decide)
  obtain ⟨horder, hpadded⟩ := hordered _ _ _ hm hn
  have hgt : order ⟨"my.bin.18446744073709551616", 4⟩ ⟨"my.bin.18446744073709551615", 900⟩ =
      .ok .gt := horder.trans (congrArg Except.ok (by decide))
  exact ⟨hgt, (hpadded 3 1).trans hgt⟩

end Place

end BinlogCursor
