/-
The shortest decimal that stands for a binary64 number. Among the decimals that
would round to the number, those with the fewest digits count, and among these
the nearest to it.
-/
import BinlogCursor.Binary64
import BinlogCursor.Text.Decimal

namespace BinlogCursor

/-- A decimal `d.ddd * 10 ^ exponent`, as its digits and its exponent. -/
structure Scientific where
  digits : List Char
  exponent : Int
deriving DecidableEq

namespace Binary64

/-- The exponent of the largest power of ten that is at most `num / den`. -/
def floorLog10 (num den : Nat) : Int :=
  if den ≤ num then ((Text.digits (num / den)).length : Int) - 1
  else
    let places := (Text.digits (den / num)).length
    if den ≤ num * Nat.pow 10 (places - 1) then -((places : Int) - 1) else -(places : Int)

/-- The ends of the interval of the reals that round to a number, in quarters of its step. -/
def quarters (x : Binary64) : Nat × Nat :=
  let low := if x.mantissa == leastMantissa && decide (minExponent < x.exponent) then 1 else 2
  (4 * x.mantissa - low, 4 * x.mantissa + 2)

/-- The decimal `digits * 10 ^ place` would be read as `x`. -/
def roundsTo (x : Binary64) (digits : Nat) (place : Int) : Bool :=
  let (low, high) := x.quarters
  -- both sides are multiplied by the denominators of `10 ^ place` and of a quarter step
  let (a, b) := scaled 1 1 (x.exponent - 2)
  let value := digits * Nat.pow 10 place.toNat * b
  let unit := a * Nat.pow 10 (-place).toNat
  if x.mantissa % 2 == 0 then decide (low * unit ≤ value) && decide (value ≤ high * unit)
  else decide (low * unit < value) && decide (value < high * unit)

def stripZeros (cs : List Char) : List Char :=
  (cs.reverse.dropWhile (· = '0')).reverse

def scientific (n : Nat) (place : Int) : Scientific :=
  let cs := Text.digits n
  ⟨stripZeros cs, place + (cs.length - 1 : Nat)⟩

/-- Of the two multiples of `10 ^ place` next to `x`, the nearest that is read as `x`. -/
def onGrid (x : Binary64) (place : Int) : Option Nat :=
  let (num, den) := x.ratio
  let num := num * Nat.pow 10 (-place).toNat
  let den := den * Nat.pow 10 place.toNat
  let below := num / den
  let twice := 2 * (num % den)
  let preferBelow := decide (twice < den) || (twice == den && below % 2 == 0)
  let (first, second) := if preferBelow then (below, below + 1) else (below + 1, below)
  if first ≠ 0 && x.roundsTo first place then some first
  else if second ≠ 0 && x.roundsTo second place then some second
  else none

/-- Tries grids of ever more digits, as many as `fuel` allows. -/
def searchGrids (x : Binary64) (leading : Int) : Nat → Nat → Scientific
  | 0, count => scientific ((x.onGrid (leading - count)).getD 0) (leading - count)
  | fuel + 1, count =>
    match x.onGrid (leading - count) with
    | some n => scientific n (leading - count)
    | none => searchGrids x leading fuel (count + 1)

/-- The shortest decimal that is read as `x`; seventeen digits are always enough. -/
def shortest (x : Binary64) : Scientific :=
  if x.isZero then ⟨['0'], 0⟩
  else
    let (num, den) := x.ratio
    searchGrids x (floorLog10 num den) 17 0

end Binary64

end BinlogCursor
