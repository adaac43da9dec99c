/-
Patterns for names. A pattern is a regular expression put between marks for the
beginning and the end of the name, as text: `^(?:` before it and `)$` behind it.
Which texts are regular expressions and what these match is up to an engine.
-/
import BinlogCursor.Fault

namespace BinlogCursor.Pattern

/-- An engine for regular expressions. -/
class Engine where
  /-- Regular expressions in the form in which they are searched for. -/
  Compiled : Type
  /-- The regular expression that a text is, however large. -/
  build? : List Char → Option Compiled
  /-- The regular expression is within the limits for nesting and size. -/
  fits : Compiled → Bool
  /-- The regular expression matches some part of a text. -/
  isMatch : Compiled → String → Bool

def compile? [Engine] (cs : List Char) : Option Engine.Compiled :=
  (Engine.build? cs).filter Engine.fits

/-- A pattern between the marks for the beginning and the end. -/
def anchored (pattern : List Char) : List Char :=
  "^(?:".toList ++ pattern ++ ")$".toList

def compileWhole [Engine] (pattern : List Char) : Outcome Engine.Compiled :=
  match compile? (anchored pattern) with
  | some r => .ok r
  | none => .error .pattern

end BinlogCursor.Pattern
