/-
The engine for regular expressions that the program runs with: it reads an
expression, works out what it means under its flags, and matches a text by
following all alternatives together.
-/
import BinlogCursor.Pattern.Engine
import BinlogCursor.Pattern.Meaning
import BinlogCursor.Pattern.Reader
import BinlogCursor.Pattern.Regex.Match
import BinlogCursor.Pattern.Size

namespace BinlogCursor.Pattern

/-- A regular expression as it is written, and what it means. -/
structure Built where
  expr : Expr
  regex : Regex

namespace Built

def ofText? (cs : List Char) : Option Built := do
  let e ← Expr.parse? cs
  let (r, _) ← meaning .initial e
  pure ⟨e, r⟩

def fits (b : Built) : Bool :=
  b.expr.depth ≤ depthLimit && b.regex.fits

end Built

instance standard : Engine where
  Compiled := Built
  build? := Built.ofText?
  fits := Built.fits
  isMatch b := b.regex.isMatch

end BinlogCursor.Pattern
