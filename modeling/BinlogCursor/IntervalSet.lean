/-
Sets of transaction numbers as lists of intervals. A list is brought into its
canonical form, in increasing order and with at least one number missing between
neighbours, by sorting it and joining what touches; its text is the intervals
joined by colons.
-/
import BinlogCursor.Interval
import BinlogCursor.Search

namespace BinlogCursor

/-- A set of numbers, as the intervals it is made of. -/
structure IntervalSet where
  intervals : List Interval
deriving DecidableEq

namespace IntervalSet

/-- Every interval holds a number, and between two neighbours one is missing. -/
def Canonical (s : IntervalSet) : Prop :=
  (∀ i ∈ s.intervals, i.Valid) ∧
    s.intervals.Pairwise fun i j => i.last.toNat + 1 < j.first.toNat

instance (s : IntervalSet) : Decidable s.Canonical :=
  @instDecidableAnd _ _ (List.decidableBAll _ _) inferInstance

/-- Joins each interval to the one before it when they touch. -/
def coalesce (current : Interval) : List Interval → List Interval
  | [] => [current]
  | next :: rest =>
    match current.merge? next with
    | some joined => coalesce joined rest
    | none => current :: coalesce next rest

def joinTouching : List Interval → List Interval
  | [] => []
  | i :: rest => coalesce i rest

/-- The set of the numbers that lie in some interval of a list. -/
def ofList (l : List Interval) : IntervalSet :=
  ⟨joinTouching (l.mergeSort Interval.atOrBefore)⟩

def union (s t : IntervalSet) : IntervalSet :=
  ofList (s.intervals ++ t.intervals)

def isEmpty (s : IntervalSet) : Bool :=
  s.intervals.isEmpty

def contains (s : IntervalSet) (n : UInt64) : Bool :=
  s.intervals.any (·.contains n)

/-- An interval starts at or before a number. -/
def startsBy (n : UInt64) (i : Interval) : Bool :=
  decide (i.first ≤ n)

/-- How many intervals of a set start at or before a number. -/
def startsUpTo (s : IntervalSet) (n : UInt64) : Nat :=
  Search.partitionPoint (startsBy n) s.intervals

theorem startsUpTo_le (s : IntervalSet) (n : UInt64) : s.startsUpTo n ≤ s.intervals.length :=
  Search.partitionPoint_le _ _

/-- One interval of the set covers the given one. Only the last that starts at or before it can,
which is found by halving. -/
def coversBySearch (s : IntervalSet) (needle : Interval) : Bool :=
  if h : 0 < s.startsUpTo needle.first then
    have : s.startsUpTo needle.first - 1 < s.intervals.length := by
      have := s.startsUpTo_le needle.first
      omega
    s.intervals[s.startsUpTo needle.first - 1].covers needle
  else false

/-- Every number of `t` is in `s`. -/
def includes (s t : IntervalSet) : Bool :=
  t.intervals.all s.coversBySearch

/-- The intervals as they are written, in order, with colons between them. -/
def chars (s : IntervalSet) : List Char :=
  Text.join ':' (s.intervals.map Interval.chars)

def text (s : IntervalSet) : String :=
  String.ofList s.chars

/-- Reads a list of intervals separated by colons. -/
def read (cs : List Char) : Outcome IntervalSet :=
  if cs.isEmpty then .error (.format .noIntervals)
  else do
    let intervals ← (Text.split ':' cs).mapM Interval.read
    pure (ofList intervals)

def parse (s : String) : Outcome IntervalSet :=
  read s.toList

end IntervalSet

end BinlogCursor
