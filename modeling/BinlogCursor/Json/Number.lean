/-
The numbers of JSON: integers of 64 bits, with or without a sign, and for all
others the binary64 format. `Numeral` is a number as it is written; its value
takes as many of its digits as fit in 64 bits, and scales them by a power of ten.
-/
import BinlogCursor.Binary64.Shortest

namespace BinlogCursor.Json

/-- A number. Integers lie between `-2 ^ 63` and `2 ^ 64 - 1`. -/
inductive Number
  | integer (value : Int)
  | float (negative : Bool) (magnitude : Binary64)
deriving DecidableEq

/-- A number as it is written: sign, digits before and after the point, and exponent. -/
structure Numeral where
  negative : Bool
  whole : List Char
  fraction : Option (List Char)
  exponent : Option Int
deriving DecidableEq

/-- The digits taken so far, the power of ten they are to be scaled by, and whether one did
not fit. -/
structure Significand where
  value : Nat
  scale : Int
  full : Bool

namespace Significand

/-- The value with one more digit, if it still fits in 64 bits. -/
def push? (s : Significand) (c : Char) : Option Nat :=
  let next := s.value * 10 + (c.toNat - '0'.toNat)
  if s.full || UInt64.size ≤ next then none else some next

/-- Takes a digit before the point; one that does not fit only scales what is there. -/
def pushWhole (s : Significand) (c : Char) : Significand :=
  match s.push? c with
  | some next => ⟨next, s.scale, false⟩
  | none => ⟨s.value, s.scale + 1, true⟩

/-- Takes a digit after the point; from the first that does not fit on they count no more. -/
def pushFraction (s : Significand) (c : Char) : Significand :=
  match s.push? c with
  | some next => ⟨next, s.scale - 1, false⟩
  | none => ⟨s.value, s.scale, true⟩

end Significand

/-- The largest power of ten in one step of scaling. -/
def scaleStep : Nat := 308

/-- Divides by `10 ^ places`, in steps of at most `10 ^ 308`. -/
def shrink (x : Binary64) (places : Nat) : Option Binary64 :=
  if x.isZero then some x
  else if places ≤ scaleStep then do
    let power ← Binary64.ofNat (Nat.pow 10 places)
    x.div power
  else do
    let power ← Binary64.ofNat (Nat.pow 10 scaleStep)
    let y ← x.div power
    shrink y (places - scaleStep)
termination_by places
decreasing_by simp only [scaleStep] at *; omega

/-- Multiplies by `10 ^ places`, where a single step must do. -/
def grow (x : Binary64) (places : Nat) : Option Binary64 :=
  if x.isZero then some x
  else if places ≤ scaleStep then do
    let power ← Binary64.ofNat (Nat.pow 10 places)
    x.mul power
  else none

/-- The number `value * 10 ^ scale`, unless it lies beyond the format. -/
def scaleBy (value : Nat) (scale : Int) : Option Binary64 := do
  let x ← Binary64.ofNat value
  if 0 ≤ scale then grow x scale.toNat else shrink x (-scale).toNat

/-- The number that a numeral stands for, if it is not too large. -/
def Numeral.value? (n : Numeral) : Option Number :=
  let s := n.whole.foldl Significand.pushWhole ⟨0, 0, false⟩
  match n.fraction, n.exponent with
  | none, none =>
    if !s.full && !n.negative then some (.integer s.value)
    else if !s.full && 0 < s.value && s.value ≤ UInt64.size / 2 then some (.integer (-(s.value : Int)))
    else (scaleBy s.value s.scale).map (.float n.negative)
  | fraction, exponent =>
    let s := (fraction.getD []).foldl Significand.pushFraction ⟨s.value, s.scale, false⟩
    (scaleBy s.value (s.scale + exponent.getD 0)).map (.float n.negative)

def integerChars : Int → List Char
  | .ofNat n => Text.digits n
  | .negSucc n => '-' :: Text.digits (n + 1)

/-- A decimal in positional notation, with at least one digit on either side of the point. -/
def positionalChars (s : Scientific) : List Char :=
  match s.exponent with
  | .ofNat e =>
    let whole := s.digits.take (e + 1)
    let rest := s.digits.drop (e + 1)
    whole ++ List.replicate (e + 1 - whole.length) '0' ++ '.' :: (if rest.isEmpty then ['0'] else rest)
  | .negSucc e => ['0', '.'] ++ List.replicate e '0' ++ s.digits

/-- A decimal in exponent notation, with a sign in the exponent. -/
def exponentChars (s : Scientific) : List Char :=
  let mantissa :=
    match s.digits with
    | d :: r :: rest => d :: '.' :: r :: rest
    | ds => ds
  let sign := if s.exponent < 0 then '-' else '+'
  mantissa ++ 'e' :: sign :: Text.digits s.exponent.natAbs

/-- A float is written positionally from `10 ^ -5` to below `10 ^ 16`. -/
def floatChars (x : Binary64) : List Char :=
  let s := x.shortest
  if -5 ≤ s.exponent && s.exponent < 16 then positionalChars s else exponentChars s

/-- A number as it is written. -/
def Number.chars : Number → List Char
  | .integer i => integerChars i
  | .float negative magnitude => (if negative then ['-'] else []) ++ floatChars magnitude

end BinlogCursor.Json
