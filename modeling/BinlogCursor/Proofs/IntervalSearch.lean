/-
Containment by halving, for sets as they are made.

The containment test looks for one candidate for each interval (`IntervalSet.coversBySearch`).
`includes_is_coverage` says that it finds the one that going through the set would give
(`candidate?_eq_of_search`), and that this single interval answers for all intervals of the set.
-/
import BinlogCursor.Proofs.GtidInclusion

namespace BinlogCursor

namespace IntervalSet

variable {a b : IntervalSet}

/-- Where sets of numbers come from: a list of intervals, each with its bounds in order, or a
text. -/
inductive Made : IntervalSet → Prop
  | listed {l : List Interval} (valid : ∀ i ∈ l, i.first ≤ i.last) : Made (ofList l)
  | read {text : String} {s : IntervalSet} (read : parse text = .ok s) : Made s

theorem Made.canonical (h : a.Made) : a.Canonical := by
  cases h with
  | listed valid => exact canonical_ofList fun i hi => UInt64.le_iff_toNat_le.1 (valid i hi)
  | read read =>
    obtain ⟨l, hl, rfl⟩ := read_eq_ok_iff.1 read
    exact (canonical_of_listed hl).1

/-- **Containment by a single candidate.** One set contains another exactly when it holds each of
its numbers, as it does when the candidates are looked for by going through the set. For an interval
of the other set, all intervals together cover its numbers exactly when the last one that starts at
or before it does. That one is found by halving: the starts are divided as this needs, the place
that is found lies in the set, and the interval there is the candidate. -/
theorem includes_is_coverage (ha : a.Made) (hb : b.Made) :
    (a.includes b = true ↔ ∀ n, b.contains n = true → a.contains n = true) ∧
      a.includes b = b.intervals.all a.coversInterval ∧
      ∀ needle ∈ b.intervals,
        (a.coversBySearch needle = true ↔
          ∀ n, needle.contains n = true → ∃ i ∈ a.intervals, i.contains n = true) ∧
        Search.Divides (startsBy needle.first) a.intervals ∧
        a.startsUpTo needle.first ≤ a.intervals.length ∧
        (0 < a.startsUpTo needle.first →
          a.intervals[a.startsUpTo needle.first - 1]? = a.candidate? needle.first ∧
            (a.candidate? needle.first).isSome) := by
  have hca := ha.canonical
  have hcb := hb.canonical
  refine ⟨includes_iff hca hcb.1, ?_, fun needle hneedle => ⟨?_, divides_starts hca _,
    a.startsUpTo_le _, fun hpos => ?_⟩⟩
  · exact congrArg b.intervals.all (funext fun needle => coversBySearch_eq hca needle)
  · rw [coversBySearch_iff hca (hcb.1 needle hneedle)]
    simp only [contains_iff]
  · have hle := a.startsUpTo_le needle.first
    have hlt : a.startsUpTo needle.first - 1 < a.intervals.length := by omega
    rw [candidate?_eq_of_search hca, if_neg (Nat.ne_of_gt hpos), List.getElem?_eq_getElem hlt]
    exact ⟨rfl, rfl⟩

/-- Intervals from the least number up to the greatest, which were touching before. -/
theorem includes_is_coverage_up_to_greatest :
    ∃ a, parse "7-9:0-5:18446744073709551614:18446744073709551615" = .ok a ∧
      a.includes (ofList [⟨0, 3⟩, ⟨7, 7⟩, ⟨0xFFFFFFFFFFFFFFFE, 0xFFFFFFFFFFFFFFFF⟩]) = true ∧
      ¬ ∀ n, (ofList [⟨4, 6⟩, ⟨7, 8⟩]).contains n = true → a.contains n = true := by
  have hread : parse "7-9:0-5:18446744073709551614:18446744073709551615" =
      .ok ⟨[⟨0, 5⟩, ⟨7, 9⟩, ⟨0xFFFFFFFFFFFFFFFE, 0xFFFFFFFFFFFFFFFF⟩]⟩ := by
    show Except.ok (ofList [⟨7, 9⟩, ⟨0, 5⟩, ⟨0xFFFFFFFFFFFFFFFE, 0xFFFFFFFFFFFFFFFE⟩,
      ⟨0xFFFFFFFFFFFFFFFF, 0xFFFFFFFFFFFFFFFF⟩]) = _
    simp +decide [ofList, List.mergeSort, joinTouching, coalesce]
  have hparts : ofList [⟨0, 3⟩, ⟨7, 7⟩, ⟨0xFFFFFFFFFFFFFFFE, 0xFFFFFFFFFFFFFFFF⟩] =
      ⟨[⟨0, 3⟩, ⟨7, 7⟩, ⟨0xFFFFFFFFFFFFFFFE, 0xFFFFFFFFFFFFFFFF⟩]⟩ :=
    Canonical.ofList_intervals (s := ⟨[⟨0, 3⟩, ⟨7, 7⟩, ⟨0xFFFFFFFFFFFFFFFE, 0xFFFFFFFFFFFFFFFF⟩]⟩)
      (by decide)
  have hacross : ofList [⟨4, 6⟩, ⟨7, 8⟩] = ⟨[⟨4, 8⟩]⟩ := by
    simp +decide [ofList, List.mergeSort, joinTouching, coalesce]
  obtain ⟨-, hwithin, -⟩ := includes_is_coverage (.read hread)
    (.listed (l := [⟨0, 3⟩, ⟨7, 7⟩, ⟨0xFFFFFFFFFFFFFFFE, 0xFFFFFFFFFFFFFFFF⟩]) (by decide))
  obtain ⟨hbeyond, -⟩ :=
    includes_is_coverage (.read hread) (.listed (l := [⟨4, 6⟩, ⟨7, 8⟩]) (by decide))
  refine ⟨_, hread, hwithin.trans ?_, fun h => ?_⟩
  · rw [hparts]
    decide
  · have hnot := hbeyond.2 h
    rw [hacross] at hnot
    exact absurd hnot (by decide)

end IntervalSet

end BinlogCursor
