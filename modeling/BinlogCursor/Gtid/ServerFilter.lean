/-
Filters: which servers count in a comparison. A filter is made of patterns for
the servers to keep, or of patterns for those to leave out.
-/
import BinlogCursor.Gtid.Set
import BinlogCursor.Pattern.Engine

namespace BinlogCursor

/-- The choice of the servers that count. -/
structure ServerFilter where
  retains : String → Bool

namespace ServerFilter

open Pattern

def compilePatterns [Engine] (patterns : List String) : Outcome (List Engine.Compiled) :=
  patterns.mapM fun p => compileWhole (Text.trim p.toList)

def keeping [Engine] (patterns : List String) : Outcome ServerFilter := do
  let regexes ← compilePatterns patterns
  pure ⟨fun server => regexes.any (Engine.isMatch · server)⟩

def leavingOut [Engine] (patterns : List String) : Outcome ServerFilter := do
  let regexes ← compilePatterns patterns
  pure ⟨fun server => !regexes.any (Engine.isMatch · server)⟩

def apply (f : ServerFilter) (g : GtidSet) : GtidSet :=
  g.restrict f.retains

end ServerFilter

end BinlogCursor
