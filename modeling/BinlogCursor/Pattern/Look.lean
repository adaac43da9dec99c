/-
What a regular expression may ask of a place in a text: whether it is the
beginning or the end of the text, of a line or of a word. The characters on both
sides of the place decide.
-/
import BinlogCursor.Text.Letters

namespace BinlogCursor.Pattern

/-- What is asked of a place between two characters. Word characters are those of Unicode, or of
ASCII alone. -/
inductive Look
  | textStart
  | textEnd
  | lineStart (crlf : Bool)
  | lineEnd (crlf : Bool)
  | boundary (unicode : Bool)
  | notBoundary (unicode : Bool)
  | wordStart (unicode : Bool)
  | wordEnd (unicode : Bool)
  | wordStartHalf (unicode : Bool)
  | wordEndHalf (unicode : Bool)
deriving DecidableEq

def isWordAt (unicode : Bool) (c : Option Char) : Bool :=
  c.any fun c => if unicode then Text.isWordChar c else Text.isAsciiWord c

def Look.holds (before after : Option Char) : Look → Bool
  | .textStart => before.isNone
  | .textEnd => after.isNone
  | .lineStart false => before.isNone || before == some '\n'
  | .lineStart true =>
    before.isNone || before == some '\n' || (before == some '\r' && after != some '\n')
  | .lineEnd false => after.isNone || after == some '\n'
  | .lineEnd true =>
    after.isNone || after == some '\r' || (after == some '\n' && before != some '\r')
  | .boundary unicode => isWordAt unicode before != isWordAt unicode after
  | .notBoundary unicode => isWordAt unicode before == isWordAt unicode after
  | .wordStart unicode => !isWordAt unicode before && isWordAt unicode after
  | .wordEnd unicode => isWordAt unicode before && !isWordAt unicode after
  | .wordStartHalf unicode => !isWordAt unicode before
  | .wordEndHalf unicode => !isWordAt unicode after

end BinlogCursor.Pattern
