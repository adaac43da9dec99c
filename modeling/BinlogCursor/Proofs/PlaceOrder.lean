/-
Places before one another, and places that lie no further than others. Within one file
this needs no number in its name; from one file to another it is the order of places.

`before_trans` and `upTo_trans`: both relations are transitive, in any mix, and no place lies
before itself. `order_of_before`: from a numbered file on, both are the order of places.
-/
import BinlogCursor.Place

namespace BinlogCursor

instance : Std.TransCmp LogFile.compareNumber :=
  inferInstanceAs (Std.TransCmp
    (compareLex (compareOn fun f : LogFile => f.significant.length)
      (compareOn LogFile.significant)))

namespace LogFile

/-- A name is written as a stem, a dot and digits. -/
def Named (name : String) (stem number : List Char) : Prop :=
  name.toList = stem ++ '.' :: number ∧ stem ≠ [] ∧ number ≠ [] ∧
    ∀ c ∈ number, Text.isDigit c = true

/-- A name in which a dot stands between a stem and digits. -/
def HasNumber (name : String) : Prop :=
  ∃ stem number : List Char, Named name stem number

/-- A name is split where it was put together: there is no dot behind the one before the digits. -/
theorem parse?_eq_some_iff {name : String} {f : LogFile} :
    parse? name = some f ↔ Named name f.stem f.extension := by
  constructor
  · intro h
    simp only [parse?] at h
    split at h
    · cases h
    · next stem number hcut =>
      split at h
      · cases h
      · next hform =>
        simp only [Bool.or_eq_true, List.isEmpty_iff, Bool.not_eq_true', not_or,
          Bool.not_eq_false, List.all_eq_true] at hform
        obtain ⟨⟨hstem, hnumber⟩, hdigits⟩ := hform
        cases h
        exact ⟨(Text.cutLast_eq_some_iff.1 hcut).1, hstem, hnumber, hdigits⟩
  · rintro ⟨hname, hstem, hnumber, hdigits⟩
    have hdot : '.' ∉ f.extension := fun hm => absurd (hdigits _ hm) (by decide)
    have hcut := Text.cutLast_eq_some_iff.2 ⟨hname, hdot⟩
    have hall : f.extension.all Text.isDigit = true := List.all_eq_true.2 hdigits
    simp [parse?, hcut, hstem, hnumber, hall]

theorem isSome_parse?_iff {name : String} : (parse? name).isSome = true ↔ HasNumber name := by
  rw [Option.isSome_iff_exists]
  constructor
  · rintro ⟨f, hf⟩
    exact ⟨f.stem, f.extension, parse?_eq_some_iff.1 hf⟩
  · rintro ⟨stem, number, hn⟩
    exact ⟨⟨stem, number⟩, parse?_eq_some_iff.2 hn⟩

end LogFile

namespace Place

/-- A file has a stem and a number. -/
def Numbered (p : Place) : Prop :=
  (LogFile.parse? p.file).isSome = true

/-- The order of places in the files of one stem. -/
def fileOrder : LogFile × UInt64 → LogFile × UInt64 → Ordering :=
  compareLex (fun x y => x.1.compareNumber y.1) (compareOn Prod.snd)

instance : Std.TransCmp fileOrder := by
  have : Std.TransCmp fun x y : LogFile × UInt64 => x.1.compareNumber y.1 :=
    inferInstanceAs (Std.TransCmp (compareLex
      (compareOn fun x : LogFile × UInt64 => x.1.significant.length)
      (compareOn fun x : LogFile × UInt64 => x.1.significant)))
  unfold fileOrder
  infer_instance

theorem order_eq_ok_iff {a b : Place} {o : Ordering} :
    a.order b = .ok o ↔ ∃ f g, LogFile.parse? a.file = some f ∧ LogFile.parse? b.file = some g ∧
      f.stem = g.stem ∧ fileOrder (f, a.offset) (g, b.offset) = o := by
  simp only [order]
  split
  · next f g hf hg =>
    split
    · next hs =>
      simp only [Except.ok.injEq, hf, hg, Option.some.injEq]
      constructor
      · rintro rfl
        exact ⟨f, g, rfl, rfl, hs, rfl⟩
      · rintro ⟨f', g', rfl, rfl, -, rfl⟩
        rfl
    · next hs =>
      simp only [reduceCtorEq, hf, hg, Option.some.injEq, false_iff, not_exists, not_and]
      rintro f' g' rfl rfl hs'
      exact absurd hs' hs
  · next hnone =>
    simp only [reduceCtorEq, false_iff, not_exists, not_and]
    intro f g hf hg
    exact absurd hg (hnone f g hf)

/-- One place lies before another, in its file or in the order of places. -/
def before (a b : Place) : Bool :=
  decide (a.file = b.file ∧ a.offset < b.offset) ||
    match a.order b with
    | .ok .lt => true
    | _ => false

/-- One place is another or lies before it. -/
def upTo (a b : Place) : Bool :=
  decide (a = b) || a.before b

theorem before_iff {a b : Place} :
    a.before b = true ↔ (a.file = b.file ∧ a.offset < b.offset) ∨ a.order b = .ok .lt := by
  simp only [before, Bool.or_eq_true, decide_eq_true_eq]
  refine or_congr Iff.rfl ?_
  split
  · next h => simp [h]
  · next h => simpa using fun he => h he

theorem upTo_iff {a b : Place} : a.upTo b = true ↔ a = b ∨ a.before b = true := by
  simp [upTo]

theorem before_irrefl (a : Place) : a.before a = false := by
  rw [← Bool.not_eq_true, before_iff]
  rintro (⟨-, h⟩ | h)
  · exact absurd h (UInt64.lt_irrefl _)
  · obtain ⟨f, g, hf, hg, -, h⟩ := order_eq_ok_iff.1 h
    rw [hf, Option.some.injEq] at hg
    subst hg
    have : fileOrder (f, a.offset) (f, a.offset) = .eq := Std.ReflCmp.compare_self
    rw [this] at h
    cases h

/-- A greater offset in a file comes later in the order of places too. -/
theorem fileOrder_lt {f : LogFile} {x y : UInt64} (h : x < y) : fileOrder (f, x) (f, y) = .lt := by
  have h₁ : f.compareNumber f = .eq := Std.ReflCmp.compare_self
  have h₂ : compare x y = .lt := Std.compare_eq_lt.2 h
  simp [fileOrder, compareLex, compareOn, h₁, h₂]

theorem before_trans {a b c : Place} (hab : a.before b = true) (hbc : b.before c = true) :
    a.before c = true := by
  rw [before_iff] at hab hbc ⊢
  rcases hab with ⟨hf, hab⟩ | hab <;> rcases hbc with ⟨hg, hbc⟩ | hbc
  · exact .inl ⟨hf.trans hg, UInt64.lt_trans hab hbc⟩
  · obtain ⟨f, g, hpb, hpc, hs, ho⟩ := order_eq_ok_iff.1 hbc
    exact .inr (order_eq_ok_iff.2 ⟨f, g, hf ▸ hpb, hpc, hs,
      Std.TransCmp.lt_trans (fileOrder_lt hab) ho⟩)
  · obtain ⟨f, g, hpa, hpb, hs, ho⟩ := order_eq_ok_iff.1 hab
    exact .inr (order_eq_ok_iff.2 ⟨f, g, hpa, hg ▸ hpb, hs,
      Std.TransCmp.lt_trans ho (fileOrder_lt hbc)⟩)
  · obtain ⟨f, g, hpa, hpb, hs, ho⟩ := order_eq_ok_iff.1 hab
    obtain ⟨g', k, hpb', hpc, hs', ho'⟩ := order_eq_ok_iff.1 hbc
    rw [hpb, Option.some.injEq] at hpb'
    subst hpb'
    exact .inr (order_eq_ok_iff.2 ⟨f, k, hpa, hpc, hs.trans hs', Std.TransCmp.lt_trans ho ho'⟩)

theorem upTo_refl (a : Place) : a.upTo a = true :=
  upTo_iff.2 (.inl rfl)

theorem upTo_of_before {a b : Place} (h : a.before b = true) : a.upTo b = true :=
  upTo_iff.2 (.inr h)

theorem before_of_upTo_of_before {a b c : Place} (hab : a.upTo b = true)
    (hbc : b.before c = true) : a.before c = true := by
  rcases upTo_iff.1 hab with rfl | hab
  · exact hbc
  · exact before_trans hab hbc

theorem before_of_before_of_upTo {a b c : Place} (hab : a.before b = true)
    (hbc : b.upTo c = true) : a.before c = true := by
  rcases upTo_iff.1 hbc with rfl | hbc
  · exact hab
  · exact before_trans hab hbc

theorem upTo_trans {a b c : Place} (hab : a.upTo b = true) (hbc : b.upTo c = true) :
    a.upTo c = true := by
  rcases upTo_iff.1 hab with rfl | hab
  · exact hbc
  · exact upTo_of_before (before_of_before_of_upTo hab hbc)

theorem upTo_antisymm {a b : Place} (hab : a.upTo b = true) (hba : b.upTo a = true) : a = b := by
  rcases upTo_iff.1 hab with rfl | hlt
  · rfl
  · have hself := before_of_before_of_upTo hlt hba
    rw [before_irrefl] at hself
    cases hself

theorem upTo_of_offset_le {file : String} {x y : UInt64} (h : x ≤ y) :
    upTo ⟨file, x⟩ ⟨file, y⟩ = true := by
  refine upTo_iff.2 ?_
  by_cases he : x = y
  · exact .inl (by rw [he])
  · refine .inr (before_iff.2 (.inl ⟨rfl, ?_⟩))
    rw [UInt64.le_iff_toNat_le] at h
    rw [UInt64.lt_iff_toNat_lt]
    rw [← UInt64.toNat_inj] at he
    exact Nat.lt_of_le_of_ne h he

/-- From a numbered file on, what lies before comes first in the order of places. -/
theorem order_of_before {a b : Place} (ha : a.Numbered) (h : a.before b = true) :
    a.order b = .ok .lt := by
  rcases before_iff.1 h with ⟨hf, h⟩ | h
  · obtain ⟨f, hp⟩ := Option.isSome_iff_exists.1 ha
    exact order_eq_ok_iff.2 ⟨f, f, hp, hf ▸ hp, rfl, fileOrder_lt h⟩
  · exact h

theorem numbered_of_upTo {a b : Place} (ha : a.Numbered) (h : a.upTo b = true) : b.Numbered := by
  rcases upTo_iff.1 h with rfl | h
  · exact ha
  · obtain ⟨f, g, -, hg, -⟩ := order_eq_ok_iff.1 (order_of_before ha h)
    exact Option.isSome_iff_exists.2 ⟨g, hg⟩

end Place

end BinlogCursor
