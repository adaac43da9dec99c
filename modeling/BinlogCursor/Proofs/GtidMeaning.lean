/-
What the texts of GTID sets mean: the union of their entries.

`holds_iff_spelled`: a set that was read holds the transactions that the entries of its text say, so
texts that say the same are read as the same set (`parse_eq_of_same`). `reads_what_is_spelled` puts
this together with the grammar: which texts are read, as what, and how the others are refused.
-/
import BinlogCursor.Proofs.GtidOrder

namespace BinlogCursor.GtidSet

variable {g : GtidSet} {es fs : List (String × List Interval)} {s t server : String} {n : UInt64}

/-- Some entry of a server says that a transaction has been executed: its number lies within one of
the intervals. -/
def Says (es : List (String × List Interval)) (server : String) (n : UInt64) : Prop :=
  ∃ l, (server, l) ∈ es ∧ ∃ i ∈ l, i.first ≤ n ∧ n ≤ i.last

/-- A text says that a transaction has been executed. -/
def Denotes (s : String) (server : String) (n : UInt64) : Prop :=
  ∃ es, Spelled (Text.squeeze s.toList) es ∧ Says es server n

theorem not_says_nil : ¬ Says [] server n := by
  rintro ⟨_, h, -⟩
  cases h

theorem denotes_iff_spelled (hs : Spelled (Text.squeeze s.toList) es) :
    Denotes s server n ↔ Says es server n := by
  constructor
  · rintro ⟨es', hs', h⟩
    exact hs.unique hs' ▸ h
  · intro h
    exact ⟨es, hs, h⟩

theorem says_cons_iff {e : String × List Interval} : Says (e :: es) server n ↔
    (server = e.1 ∧ ∃ i ∈ e.2, i.first ≤ n ∧ n ≤ i.last) ∨ Says es server n := by
  simp only [Says, List.mem_cons, or_and_right, exists_or]
  refine or_congr_left ⟨?_, ?_⟩
  · rintro ⟨l, rfl, h⟩
    exact ⟨rfl, h⟩
  · rintro ⟨rfl, h⟩
    exact ⟨e.2, rfl, h⟩

/-! ## What is read -/

theorem holds_add {intervals : IntervalSet} {name : String} :
    (g.add name intervals).Holds server n ↔
      (server = name ∧ intervals.contains n = true) ∨ g.Holds server n := by
  unfold Holds
  rw [intervalsOf?_add]
  by_cases hs : server = name
  · subst hs
    cases g.intervalsOf? server with
    | none => simp
    | some present =>
      have hunion : (present.union intervals).contains n = true ↔
          present.contains n = true ∨ intervals.contains n = true := by
        rw [IntervalSet.union, IntervalSet.contains_ofList, IntervalSet.contains_iff,
          IntervalSet.contains_iff]
        simp only [List.mem_append, or_and_right, exists_or]
      simp [hunion, or_comm]
  · simp [hs]

/-- Adding entries adds what they say. -/
theorem holds_addAll : (g.addAll es).Holds server n ↔ g.Holds server n ∨ Says es server n := by
  induction es generalizing g with
  | nil => simp [addAll, not_says_nil]
  | cons e es ih =>
    have hlist : (IntervalSet.ofList e.2).contains n = true ↔
        ∃ i ∈ e.2, i.first ≤ n ∧ n ≤ i.last := by
      simp only [IntervalSet.contains_ofList, Interval.contains, Bool.and_eq_true,
        decide_eq_true_eq]
    rw [addAll, List.foldl_cons, ← addAll, ih, holds_add, hlist, says_cons_iff, or_assoc,
      or_left_comm]

theorem not_holds_empty : ¬ empty.Holds server n := by
  rintro ⟨_, h, -⟩
  cases h

theorem holds_iff_spelled (hg : parse s = .ok g) (hs : Spelled (Text.squeeze s.toList) es) :
    g.Holds server n ↔ Says es server n := by
  obtain ⟨es', hs', rfl⟩ := parse_eq_ok_iff.1 hg
  rw [hs.unique hs', holds_addAll]
  exact or_iff_right not_holds_empty

theorem isSome_intervalsOf?_iff (hg : parse s = .ok g) (hs : Spelled (Text.squeeze s.toList) es) :
    (g.intervalsOf? server).isSome = true ↔ server ∈ es.map Prod.fst := by
  obtain ⟨es', hs', rfl⟩ := parse_eq_ok_iff.1 hg
  rw [hs.unique hs', isSome_intervalsOf?_addAll]
  exact or_iff_right (by simp [intervalsOf?, empty])

theorem holds_iff_denotes (hg : parse s = .ok g) : g.Holds server n ↔ Denotes s server n := by
  obtain ⟨es, hs, -⟩ := parse_eq_ok_iff.1 hg
  rw [holds_iff_spelled hg hs, denotes_iff_spelled hs]

/-- Texts that say the same are read as the same set. -/
theorem parse_eq_of_same (hs : Spelled (Text.squeeze s.toList) es)
    (ht : Spelled (Text.squeeze t.toList) fs)
    (h : ∀ server n, Says es server n ↔ Says fs server n) : parse s = parse t := by
  have hg := parse_eq_ok_iff.2 ⟨es, hs, rfl⟩
  have hg' := parse_eq_ok_iff.2 ⟨fs, ht, rfl⟩
  rw [hg, hg', ext_transactions (.of_parse hg) (.of_parse hg')]
  ext ⟨server, n⟩
  exact (holds_iff_spelled hg hs).trans ((h server n).trans (holds_iff_spelled hg' ht).symm)

/-- **What is read.** A text is read exactly when it spells some entries, blanks aside, and any
other is refused for its form. The set then lists the servers of the entries and no others, and
holds the transactions that some entry says. So nothing depends on the order of the entries and of
their intervals, on how they are divided, or on what is said repeatedly: texts that say the same are
read alike. -/
theorem reads_what_is_spelled (s : String) :
    ((∃ g, parse s = .ok g) ↔ ∃ es, Spelled (Text.squeeze s.toList) es) ∧
      ((¬ ∃ es, Spelled (Text.squeeze s.toList) es) → ∃ cause, parse s = .error (.format cause)) ∧
      (∀ g es, parse s = .ok g → Spelled (Text.squeeze s.toList) es →
        (∀ server, (g.intervalsOf? server).isSome = true ↔ server ∈ es.map Prod.fst) ∧
          ∀ server n, g.Holds server n ↔ Says es server n) ∧
      ∀ t es fs, Spelled (Text.squeeze s.toList) es → Spelled (Text.squeeze t.toList) fs →
        (∀ server n, Says es server n ↔ Says fs server n) → parse s = parse t := by
  have hread : (∃ g, parse s = .ok g) ↔ ∃ es, Spelled (Text.squeeze s.toList) es := by
    simp only [parse_eq_ok_iff]
    exact ⟨fun ⟨_, es, hs, _⟩ => ⟨es, hs⟩, fun ⟨es, hs⟩ => ⟨_, es, hs, rfl⟩⟩
  refine ⟨hread, fun hnone => ?_, fun g es hg hs => ?_, fun t es fs hs ht => parse_eq_of_same hs ht⟩
  · cases hp : parse s with
    | ok g => exact absurd (hread.1 ⟨g, hp⟩) hnone
    | error e =>
      obtain ⟨cause, rfl⟩ := failsWith_parse s e hp
      exact ⟨cause, rfl⟩
  · exact ⟨fun server => isSome_intervalsOf?_iff hg hs, fun server n => holds_iff_spelled hg hs⟩

/-- The same intervals in another order, with the entry of a server divided and some numbers said
twice. -/
theorem reads_what_is_spelled_in_parts :
    ∃ g, parse "b:7, a:03:1-2" = .ok g ∧ parse "a:1-2,b:7,\na:3:2" = .ok g ∧
      (g.intervalsOf? "b").isSome = true ∧ g.Holds "a" 3 ∧ ¬ g.Holds "b" 3 := by
  have h₁ : Spelled (Text.squeeze "b:7, a:03:1-2".toList)
      [("b", [⟨7, 7⟩]), ("a", [⟨3, 3⟩, ⟨1, 2⟩])] := by decide
  have h₂ : Spelled (Text.squeeze "a:1-2,b:7,\na:3:2".toList)
      [("a", [⟨1, 2⟩]), ("b", [⟨7, 7⟩]), ("a", [⟨3, 3⟩, ⟨2, 2⟩])] := by decide
  obtain ⟨hread, -, hmeans, hsame⟩ := reads_what_is_spelled "b:7, a:03:1-2"
  obtain ⟨g, hg⟩ := hread.2 ⟨_, h₁⟩
  obtain ⟨hnames, hholds⟩ := hmeans g _ hg h₁
  have hparts := hsame _ _ _ h₁ h₂ fun server n => by
    simp only [says_cons_iff, not_says_nil, List.mem_cons, List.not_mem_nil, or_false,
      exists_eq_or_imp, exists_eq_left]
    grind
  refine ⟨g, hg, hparts ▸ hg, (hnames "b").2 (by decide), (hholds "a" 3).2 ?_, ?_⟩
  · exact ⟨[⟨3, 3⟩, ⟨1, 2⟩], by simp, ⟨3, 3⟩, by simp, by decide, by decide⟩
  · rw [hholds]
    simp only [says_cons_iff, not_says_nil, List.mem_cons, List.not_mem_nil, or_false,
      exists_eq_or_imp, exists_eq_left]
    decide

end BinlogCursor.GtidSet
