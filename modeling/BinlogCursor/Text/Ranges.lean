/-
Sets of characters as ranges of code points, in increasing order and with a gap
between any two. The code points of surrogates are no characters: the one before
them and the one behind them are neighbours.
-/

namespace BinlogCursor.Text

/-- Ranges of code points, each from its first to its last. -/
abbrev Ranges := List (Nat × Nat)

def lastCode : Nat := 0x10FFFF

def nextCode (n : Nat) : Nat :=
  if n = 0xD7FF then 0xE000 else n + 1

def previousCode (n : Nat) : Nat :=
  if n = 0xE000 then 0xD7FF else n - 1

namespace Ranges

def has (r : Ranges) (n : Nat) : Bool :=
  r.any fun (first, last) => first ≤ n && n ≤ last

def contains (r : Ranges) (c : Char) : Bool :=
  r.has c.toNat

def full : Ranges :=
  [(0, lastCode)]

/-- Puts a range before ranges that begin no earlier, and takes those into it that overlap it or
follow at once. -/
def absorb (first last : Nat) : Ranges → Ranges
  | [] => [(first, last)]
  | (a, b) :: rest =>
    if a ≤ last + 1 then absorb first (max last b) rest else (first, last) :: (a, b) :: rest

/-- Ranges in the order of their beginnings, without overlap. -/
def join : Ranges → Ranges
  | [] => []
  | (first, last) :: rest => absorb first last (join rest)

def beginsBefore (r s : Nat × Nat) : Bool :=
  r.1 ≤ s.1

def ofList (ranges : List (Nat × Nat)) : Ranges :=
  join (ranges.mergeSort beginsBefore)

def union (r s : Ranges) : Ranges :=
  join (r.merge s beginsBefore)

def inter : Ranges → Ranges → Ranges
  | [], _ => []
  | _ :: _, [] => []
  | (a, b) :: r, (c, d) :: s =>
    let rest := if b < d then inter r ((c, d) :: s) else inter ((a, b) :: r) s
    if max a c ≤ min b d then (max a c, min b d) :: rest else rest
termination_by r s => r.length + s.length

def diff : Ranges → Ranges → Ranges
  | [], _ => []
  | p :: r, [] => p :: r
  | (a, b) :: r, (c, d) :: s =>
    if d < a then diff ((a, b) :: r) s
    else if b < c then (a, b) :: diff r ((c, d) :: s)
    else
      let rest := if d < b then diff ((nextCode d, b) :: r) s else diff r ((c, d) :: s)
      if a < c then (a, previousCode c) :: rest else rest
termination_by r s => r.length + s.length

def symmDiff (r s : Ranges) : Ranges :=
  (r.union s).diff (r.inter s)

/-- The gaps between ranges, and the one behind them. Where nothing lies between two ranges (one
ends before the surrogates, the other begins behind them) their ends count as the gap. -/
def gapsAfter (last : Nat) : Ranges → Ranges
  | [] => if last < lastCode then [(nextCode last, lastCode)] else []
  | (a, b) :: rest =>
    (min (nextCode last) (previousCode a), max (nextCode last) (previousCode a)) ::
      gapsAfter b rest

def complement : Ranges → Ranges
  | [] => full
  | (a, b) :: rest =>
    if 0 < a then (0, previousCode a) :: gapsAfter b rest else gapsAfter b rest

end Ranges

end BinlogCursor.Text
