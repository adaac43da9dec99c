/-
GTID sets as sets of transactions, and their order.

`isWithin_iff_subset`: on the sets that come from text, inclusion as it is tested, interval by
interval, is inclusion of the transactions. `ext_transactions`: such a set is determined by its
transactions. `order_is_inclusion` puts both together: the order of two sets is that of the
transactions they hold.
-/
import BinlogCursor.Proofs.GtidText
import Mathlib.Data.Set.BooleanAlgebra
import Mathlib.Order.CompletePartialOrder

namespace BinlogCursor.GtidSet

/-! ## Where sets come from -/

/-- The sets there are: a set is read from a text, or it is what a choice of servers leaves of
another. -/
inductive FromText : GtidSet → Prop
  | parsed {text : String} {g : GtidSet} (read : parse text = .ok g) : FromText g
  | restricted {g : GtidSet} (h : FromText g) (keep : String → Bool) : FromText (g.restrict keep)
  | filtered {g : GtidSet} (h : FromText g) (f : ServerFilter) : FromText (f.apply g)

theorem FromText.wellFormed {g : GtidSet} (h : g.FromText) : g.WellFormed := by
  induction h with
  | parsed read => exact .of_parse read
  | restricted _ keep ih => exact ih.restrict keep
  | filtered _ f ih => exact ih.restrict f.retains

/-! ## Transactions -/

/-- A set holds a transaction of a server: the server has intervals, and one of them holds the
number. -/
def Holds (g : GtidSet) (server : String) (n : UInt64) : Prop :=
  ∃ s, g.intervalsOf? server = some s ∧ s.contains n = true

/-- The transactions that a set holds, each with its server. -/
def transactions (g : GtidSet) : Set (String × UInt64) :=
  {t | g.Holds t.1 t.2}

theorem transactions_subset_iff {a b : GtidSet} :
    a.transactions ⊆ b.transactions ↔ ∀ server n, a.Holds server n → b.Holds server n :=
  ⟨fun h server n hn => h (a := (server, n)) hn, fun h t ht => h t.1 t.2 ht⟩

/-- A server that is listed has a transaction. -/
theorem Entry.exists_contains {e : String × IntervalSet} (h : Entry e) :
    ∃ n, e.2.contains n = true := by
  obtain ⟨i, hi⟩ := List.exists_mem_of_ne_nil _ h.nonempty
  have hfirst : i.contains i.first = true := Interval.contains_first (h.canonical.1 i hi)
  exact ⟨i.first, (IntervalSet.contains_iff _ _).2 ⟨i, hi, hfirst⟩⟩

/-- **Inclusion.** One set is within another when the other holds all of its transactions. -/
theorem isWithin_iff_subset {a b : GtidSet} (ha : a.WellFormed) (hb : b.WellFormed) :
    a.isWithin b = true ↔ a.transactions ⊆ b.transactions := by
  rw [isWithin_iff_intervalsOf?, transactions_subset_iff]
  constructor
  · rintro h server n ⟨s, hs, hn⟩
    obtain ⟨t, ht, hts⟩ := h server s hs
    have hincl := (IntervalSet.includes_iff (hb.of_intervalsOf? ht).canonical
      (ha.of_intervalsOf? hs).canonical.1).1 hts
    exact ⟨t, ht, hincl n hn⟩
  · intro h server s hs
    have hentry := ha.of_intervalsOf? hs
    -- That the other set lists the server at all follows from some number of `s`.
    obtain ⟨n, hn⟩ := hentry.exists_contains
    obtain ⟨t, ht, -⟩ := h server n ⟨s, hs, hn⟩
    refine ⟨t, ht, (IntervalSet.includes_iff (hb.of_intervalsOf? ht).canonical
      hentry.canonical.1).2 fun m hm => ?_⟩
    obtain ⟨t', ht', htm⟩ := h server m ⟨s, hs, hm⟩
    rw [ht, Option.some.injEq] at ht'
    exact ht' ▸ htm

theorem Entry.eq_of_includes {server : String} {s t : IntervalSet} (hs : Entry (server, s))
    (ht : Entry (server, t)) (hst : s.includes t = true) (hts : t.includes s = true) : s = t := by
  have h₁ := (IntervalSet.includes_iff hs.canonical ht.canonical.1).1 hst
  have h₂ := (IntervalSet.includes_iff ht.canonical hs.canonical.1).1 hts
  exact hs.canonical.ext ht.canonical fun n => ⟨h₂ n, h₁ n⟩

theorem isWithin_antisymm {a b : GtidSet} (ha : a.WellFormed) (hb : b.WellFormed)
    (hab : a.isWithin b = true) (hba : b.isWithin a = true) : a = b := by
  rw [isWithin_iff_intervalsOf?] at hab hba
  have hservers : a.servers = b.servers := by
    refine TextMap.ext_get? fun server => ?_
    show a.intervalsOf? server = b.intervalsOf? server
    cases hs : a.intervalsOf? server with
    | none =>
      cases ht : b.intervalsOf? server with
      | none => rfl
      | some t =>
        obtain ⟨s, hs', -⟩ := hba server t ht
        rw [hs] at hs'
        cases hs'
    | some s =>
      obtain ⟨t, ht, hts⟩ := hab server s hs
      obtain ⟨s', hs', hst⟩ := hba server t ht
      rw [hs, Option.some.injEq] at hs'
      subst hs'
      rw [ht, (ha.of_intervalsOf? hs).eq_of_includes (hb.of_intervalsOf? ht) hst hts]
  cases a
  cases b
  exact congrArg mk hservers

/-- A set is determined by its transactions. -/
theorem ext_transactions {a b : GtidSet} (ha : a.WellFormed) (hb : b.WellFormed)
    (h : a.transactions = b.transactions) : a = b :=
  isWithin_antisymm ha hb ((isWithin_iff_subset ha hb).2 h.subset)
    ((isWithin_iff_subset hb ha).2 h.symm.subset)

/-- A set is determined by its text. -/
theorem text_inj {a b : GtidSet} (ha : a.WellFormed) (hb : b.WellFormed) :
    a.text = b.text ↔ a = b := by
  refine ⟨fun h => ?_, fun h => h ▸ rfl⟩
  have hparse := parse_text ha
  rw [h, parse_text hb] at hparse
  exact (Except.ok.inj hparse).symm

/-! ## The order -/

theorem order?_eq_some_eq_iff {a b : GtidSet} :
    a.order? b = some .eq ↔ a.isWithin b = true ∧ b.isWithin a = true := by
  unfold order?
  cases a.isWithin b <;> cases b.isWithin a <;> simp

theorem order?_eq_some_lt_iff {a b : GtidSet} :
    a.order? b = some .lt ↔ a.isWithin b = true ∧ ¬ b.isWithin a = true := by
  unfold order?
  cases a.isWithin b <;> cases b.isWithin a <;> simp

theorem order?_eq_none_iff {a b : GtidSet} :
    a.order? b = none ↔ ¬ a.isWithin b = true ∧ ¬ b.isWithin a = true := by
  unfold order?
  cases a.isWithin b <;> cases b.isWithin a <;> simp

/-- From the other side the order is the reverse. -/
theorem order?_swap (a b : GtidSet) : b.order? a = (a.order? b).map Ordering.swap := by
  unfold order?
  cases a.isWithin b <;> cases b.isWithin a <;> rfl

theorem order?_eq_some_gt_iff {a b : GtidSet} :
    a.order? b = some .gt ↔ b.order? a = some .lt := by
  rw [order?_swap a b]
  cases a.order? b with
  | none => simp
  | some o => cases o <;> simp

/-- **The order is inclusion.** A set is within another exactly when every transaction that it
holds is held by the other. Two sets are equal in their order when they are the same set, which is
when they have the same text; one is less when its transactions are a proper part of the other's;
and they have no order when neither holds all that the other does. So inclusion is a partial
order. -/
theorem order_is_inclusion {a b : GtidSet} (ha : a.FromText) (hb : b.FromText) :
    (a.isWithin b = true ↔ ∀ server n, a.Holds server n → b.Holds server n) ∧
      (a.order? b = some .eq ↔ a = b) ∧ (a.text = b.text ↔ a = b) ∧
      (a.order? b = some .lt ↔ a.transactions ⊂ b.transactions) ∧
      (a.order? b = some .gt ↔ b.transactions ⊂ a.transactions) ∧
      (a.order? b = none ↔
        ¬ a.transactions ⊆ b.transactions ∧ ¬ b.transactions ⊆ a.transactions) ∧
      a.isWithin a = true ∧
      (∀ c : GtidSet, c.FromText → a.isWithin b = true → b.isWithin c = true →
        a.isWithin c = true) ∧
      (a.isWithin b = true → b.isWithin a = true → a = b) := by
  have hwa := ha.wellFormed
  have hwb := hb.wellFormed
  have hab := isWithin_iff_subset hwa hwb
  have hba := isWithin_iff_subset hwb hwa
  refine ⟨hab.trans transactions_subset_iff, ⟨fun h => ?_, ?_⟩, text_inj hwa hwb, ?_, ?_, ?_,
    isWithin_refl hwa, fun c hc => isWithin_trans hwa hwb hc.wellFormed,
    isWithin_antisymm hwa hwb⟩
  · obtain ⟨h₁, h₂⟩ := order?_eq_some_eq_iff.1 h
    exact isWithin_antisymm hwa hwb h₁ h₂
  · rintro rfl
    exact order?_eq_some_eq_iff.2 ⟨isWithin_refl hwa, isWithin_refl hwa⟩
  · rw [order?_eq_some_lt_iff, hab, hba, Set.ssubset_def]
  · rw [order?_eq_some_gt_iff, order?_eq_some_lt_iff, hab, hba, Set.ssubset_def]
  · rw [order?_eq_none_iff, hab, hba]

/-- What a choice of servers leaves of a set, and a greater set of the same server. -/
theorem order_is_inclusion_of_chosen_server :
    ∃ a b : GtidSet, parse "a:1-4,b:9" = .ok a ∧ parse "a:1-6" = .ok b ∧
      (a.restrict (· == "a")).order? b = some .lt ∧
      (a.restrict (· == "a")).transactions ⊂ b.transactions := by
  have ha := parse_text (g := ⟨(TextMap.empty.insert "a" ⟨[⟨1, 4⟩]⟩).insert "b" ⟨[⟨9, 9⟩]⟩⟩)
    (by decide)
  have hb := parse_text (g := ⟨TextMap.empty.insert "a" ⟨[⟨1, 6⟩]⟩⟩) (by decide)
  refine ⟨_, _, ha, hb, ?_⟩
  have hlt : (restrict ⟨(TextMap.empty.insert "a" ⟨[⟨1, 4⟩]⟩).insert "b" ⟨[⟨9, 9⟩]⟩⟩
      (· == "a")).order? ⟨TextMap.empty.insert "a" ⟨[⟨1, 6⟩]⟩⟩ = some .lt := by decide
  exact ⟨hlt, (order_is_inclusion (.restricted (.parsed ha) _) (.parsed hb)).2.2.2.1.1 hlt⟩

end BinlogCursor.GtidSet
