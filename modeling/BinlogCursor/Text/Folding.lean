/-
Letters that differ in case only. Two characters do if folding leads both to the
same character; each set of characters has a smallest set around it in which case
does not count.
-/
import BinlogCursor.Text.Ranges
import BinlogCursor.Text.Table.Folding

namespace BinlogCursor.Text.Folding

/-- A letter that is folded, and the letter to which it is folded. -/
abbrev Pair := Nat × Nat

def pairsOf (run : Table.FoldRun) : List Pair :=
  (List.range ((run.last - run.first) / run.step + 1)).map fun i =>
    let letter := run.first + i * run.step
    (letter, ((letter : Int) + run.distance).toNat)

def pairs : List Pair :=
  Table.folding.flatMap pairsOf

def asciiPairs : List Pair :=
  (List.range 26).map fun i => ('A'.toNat + i, 'a'.toNat + i)

/-- The letters to which members of a set are folded, so far as they are folded or folded to. -/
def targets (pairs : List Pair) (r : Ranges) : Ranges :=
  .ofList ((pairs.filter fun p => r.has p.1 || r.has p.2).map fun p => (p.2, p.2))

/-- The letters that are folded to members of a set. -/
def sources (pairs : List Pair) (r : Ranges) : Ranges :=
  .ofList ((pairs.filter fun p => r.has p.2).map fun p => (p.1, p.1))

/-- A set with all characters from which a member differs in case only. -/
def close (pairs : List Pair) (r : Ranges) : Ranges :=
  let folded := targets pairs r
  (r.union folded).union (sources pairs folded)

end BinlogCursor.Text.Folding
