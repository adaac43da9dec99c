/-
Sets of global transaction identifiers: for each server, the numbers of its
transactions. A set is written `server:intervals,server:intervals`, the servers
in increasing order. Sets are ordered by inclusion, which leaves many of them
without an order.
-/
import BinlogCursor.IntervalSet
import BinlogCursor.Text.Blank
import BinlogCursor.TextMap

namespace BinlogCursor

/-- The executed transactions of each server. -/
structure GtidSet where
  servers : TextMap IntervalSet
deriving DecidableEq

namespace GtidSet

def empty : GtidSet :=
  ⟨.empty⟩

instance : EmptyCollection GtidSet := ⟨empty⟩

def isEmpty (g : GtidSet) : Bool :=
  g.servers.isEmpty

def intervalsOf? (g : GtidSet) (server : String) : Option IntervalSet :=
  g.servers.get? server

/-- Adds transactions of a server to those it has. -/
def add (g : GtidSet) (server : String) (intervals : IntervalSet) : GtidSet :=
  match g.intervalsOf? server with
  | some present => ⟨g.servers.insert server (present.union intervals)⟩
  | none => ⟨g.servers.insert server intervals⟩

def restrict (g : GtidSet) (keep : String → Bool) : GtidSet :=
  ⟨g.servers.filter keep⟩

/-- Reads one entry: a server, a colon, and its intervals. -/
def readEntry (entry : List Char) : Outcome (String × IntervalSet) :=
  match Text.cutFirst ':' entry with
  | none => .error (.format (.entryWithoutColon (String.ofList entry)))
  | some (server, ranges) =>
    if server.isEmpty then .error (.format (.entryWithoutServer (String.ofList entry)))
    else do
      let intervals ← IntervalSet.read ranges
      pure (String.ofList server, intervals)

def addEntry (g : GtidSet) (entry : List Char) : Outcome GtidSet := do
  let (server, intervals) ← readEntry entry
  pure (g.add server intervals)

/-- Reads a set. Blanks may stand anywhere; a text of blanks alone is the empty set. -/
def parse (s : String) : Outcome GtidSet :=
  let cs := Text.squeeze s.toList
  if cs.isEmpty then .ok empty else (Text.split ',' cs).foldlM addEntry empty

/-- Reads a set that may be missing: a blank text stands for no set. -/
def parseUnlessBlank : Option String → Outcome (Option GtidSet)
  | none => .ok none
  | some s => if (Text.trim s.toList).isEmpty then .ok none else (parse s).map some

def entryChars (entry : String × IntervalSet) : List Char :=
  entry.1.toList ++ ':' :: entry.2.chars

def chars (g : GtidSet) : List Char :=
  Text.join ',' (g.servers.entries.map entryChars)

def text (g : GtidSet) : String :=
  String.ofList g.chars

/-- Every transaction of `a` is in `b`. -/
def isWithin (a b : GtidSet) : Bool :=
  a.servers.entries.all fun entry =>
    (b.intervalsOf? entry.1).any fun theirs => theirs.includes entry.2

def order? (a b : GtidSet) : Option Ordering :=
  match a.isWithin b, b.isWithin a with
  | true, true => some .eq
  | true, false => some .lt
  | false, true => some .gt
  | false, false => none

end GtidSet

end BinlogCursor
