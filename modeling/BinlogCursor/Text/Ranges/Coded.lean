/-
Sets of characters in a compact text: the lengths of the gaps, ranges and runs in
base 36, separated by blanks.
-/
import BinlogCursor.Text.Ranges
import BinlogCursor.Text.Split

namespace BinlogCursor.Text

def base36 (cs : List Char) : Nat :=
  cs.foldl (fun n c => n * 36 + (c.toNat - if c.isDigit then '0'.toNat else 'a'.toNat - 10)) 0

def base36Numbers (lines : List String) : List Nat :=
  lines.flatMap fun line => (split ' ' line.toList).map base36

namespace Ranges

/-- The ranges that begin at given distances: each lies a gap behind the end of the one before,
and is as long as the next number says. -/
def ofDistances (start : Nat) : List Nat → Ranges
  | gap :: length :: rest =>
    (start + gap, start + gap + length - 1) :: ofDistances (start + gap + length) rest
  | _ => []

def decode (lines : List String) : Ranges :=
  ofDistances 0 (base36Numbers lines)

/-- The code points whose value is among those to keep, where the numbers give the length and the
value of each run from `start` on. -/
def ofRuns (keep : Nat → Bool) (start : Nat) : List Nat → Ranges
  | length :: value :: rest =>
    if keep value then absorb start (start + length - 1) (ofRuns keep (start + length) rest)
    else ofRuns keep (start + length) rest
  | _ => []

end Ranges

end BinlogCursor.Text
