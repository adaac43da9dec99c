/-
Finite numbers of the binary64 format without a sign: a mantissa of at most 53
bits times a power of two. Ratios of natural numbers are rounded to the nearest
such number, and of two equally near to the one with the even mantissa; products
and quotients are the rounded exact ones.
-/

namespace BinlogCursor

/-- The number `mantissa * 2 ^ exponent`. -/
structure Binary64 where
  mantissa : Nat
  exponent : Int
deriving DecidableEq

namespace Binary64

/-- The exponent of the smallest steps of the format. -/
def minExponent : Int := -1074

/-- The exponent of the largest steps of the format. -/
def maxExponent : Int := 971

/-- The least mantissa of a number whose steps are not the smallest: `2 ^ 52`. -/
def leastMantissa : Nat := 4503599627370496

def zero : Binary64 :=
  ⟨0, minExponent⟩

def isZero (x : Binary64) : Bool :=
  x.mantissa == 0

/-- The numerator and denominator of `num / den * 2 ^ e`. -/
def scaled (num den : Nat) (e : Int) : Nat × Nat :=
  (num * Nat.pow 2 e.toNat, den * Nat.pow 2 (-e).toNat)

def ratio (x : Binary64) : Nat × Nat :=
  scaled x.mantissa 1 x.exponent

/-- The quotient rounded to the nearest natural number, a half to the even one. -/
def roundQuotient (num den : Nat) : Nat :=
  let q := num / den
  let twice := 2 * (num % den)
  if twice < den || (twice == den && q % 2 == 0) then q else q + 1

/-- The exponent of the largest power of two that is at most `num / den`. -/
def floorLog2 (num den : Nat) : Int :=
  let guess : Int := (num.log2 : Int) - (den.log2 : Int)
  let (n, d) := scaled num den (-guess)
  if d ≤ n then guess else guess - 1

/-- The number nearest to `num / den`, unless that lies beyond the format. -/
def ofRatio (num den : Nat) : Option Binary64 :=
  if num = 0 then some zero
  else
    let e := max (floorLog2 num den - 52) minExponent
    let (n, d) := scaled num den (-e)
    let m := roundQuotient n d
    let (m, e) := if m = 2 * leastMantissa then (leastMantissa, e + 1) else (m, e)
    if e ≤ maxExponent then some ⟨m, e⟩ else none

def ofNat (n : Nat) : Option Binary64 :=
  ofRatio n 1

def mul (x y : Binary64) : Option Binary64 :=
  let (a, b) := x.ratio
  let (c, d) := y.ratio
  ofRatio (a * c) (b * d)

def div (x y : Binary64) : Option Binary64 :=
  let (a, b) := x.ratio
  let (c, d) := y.ratio
  ofRatio (a * d) (b * c)

end Binary64

end BinlogCursor
