/-
Ranges of characters as bytes: each range falls into pieces whose characters are
written with the same number of bytes, and such that every combination of bytes
within the ranges of a piece writes a character of it.
-/
import BinlogCursor.Text.Ranges

namespace BinlogCursor.Pattern

def bytesOfCode (n : Nat) : List Nat :=
  if n < 0x80 then [n]
  else if n < 0x800 then [0xC0 + n / 0x40, 0x80 + n % 0x40]
  else if n < 0x10000 then [0xE0 + n / 0x1000, 0x80 + n / 0x40 % 0x40, 0x80 + n % 0x40]
  else
    [0xF0 + n / 0x40000, 0x80 + n / 0x1000 % 0x40, 0x80 + n / 0x40 % 0x40, 0x80 + n % 0x40]

def bytesOfText (chars : List Char) : List Nat :=
  chars.flatMap fun c => bytesOfCode c.toNat

abbrev ByteRange := Nat × Nat

/-- The last character of the first piece, where a range must be cut because of the last bytes of
its characters, which make blocks of a size: blocks that are not whole stand apart. -/
def cutAtBlock? (size first last : Nat) : Option Nat :=
  if first / size = last / size then none
  else if first % size ≠ 0 then some (first / size * size + (size - 1))
  else if last % size ≠ size - 1 then some (last / size * size - 1)
  else none

def cut? (first last : Nat) : Option Nat :=
  if first < 0xE000 ∧ 0xD7FF < last then some 0xD7FF
  else
    match [0x7F, 0x7FF, 0xFFFF].find? fun n => first ≤ n && n < last with
    | some n => some n
    | none =>
      if last < 0x80 then none
      else [0x40, 0x1000, 0x40000].findSome? fun size => cutAtBlock? size first last

/-- The pieces of a range, in order, as the ranges of their bytes. -/
def piecesOfRange (first last : Nat) : List (List ByteRange) :=
  match cut? first last with
  | none => [(bytesOfCode first).zip (bytesOfCode last)]
  | some n =>
    if _h : first ≤ n ∧ n < last then
      piecesOfRange first n ++ piecesOfRange (Text.nextCode n) last
    else []
termination_by last - first
decreasing_by
  · omega
  · unfold Text.nextCode
    split <;> omega

def piecesOf (r : Text.Ranges) : List (List ByteRange) :=
  r.flatMap fun (first, last) => piecesOfRange first last

end BinlogCursor.Pattern
