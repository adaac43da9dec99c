/-
What an expression means under its flags. A flag holds from where it is set to
the end of the group around it. Characters are those of Unicode; where that flag
is off, a class that goes beyond ASCII is refused.
-/
import BinlogCursor.Pattern.Expr
import BinlogCursor.Pattern.Property
import BinlogCursor.Pattern.Regex.Build
import BinlogCursor.Text.Folding

namespace BinlogCursor.Pattern

open Text (Ranges)

/-- The flags that bear on what an expression means. -/
structure Flags where
  caseless : Bool
  multiline : Bool
  dotAll : Bool
  swapGreed : Bool
  unicode : Bool
  crlf : Bool
deriving DecidableEq

namespace Flags

def initial : Flags :=
  ⟨false, false, false, false, true, false⟩

def apply (f : Flags) (change : FlagChange) : Flags where
  caseless := (change.value? .caseless).getD f.caseless
  multiline := (change.value? .multiline).getD f.multiline
  dotAll := (change.value? .dotAll).getD f.dotAll
  swapGreed := (change.value? .swapGreed).getD f.swapGreed
  unicode := (change.value? .unicode).getD f.unicode
  crlf := (change.value? .crlf).getD f.crlf

/-- A set with all characters that differ from one of it in case only, if case does not count. -/
def fold (f : Flags) (r : Ranges) : Ranges :=
  if f.caseless then
    Text.Folding.close (if f.unicode then Text.Folding.pairs else Text.Folding.asciiPairs) r
  else r

/-- The characters outside of a set, if those are asked for. They go beyond ASCII. -/
def negate (f : Flags) (negated : Bool) (r : Ranges) : Option Ranges :=
  if !negated then some r else if f.unicode then some r.complement else none

def foldAndNegate (f : Flags) (negated : Bool) (r : Ranges) : Option Ranges :=
  f.negate negated (f.fold r)

end Flags

def AsciiClass.ranges : AsciiClass → Ranges
  | .alnum => [(0x30, 0x39), (0x41, 0x5A), (0x61, 0x7A)]
  | .alpha => [(0x41, 0x5A), (0x61, 0x7A)]
  | .ascii => [(0x00, 0x7F)]
  | .blank => [(0x09, 0x09), (0x20, 0x20)]
  | .cntrl => [(0x00, 0x1F), (0x7F, 0x7F)]
  | .digit => [(0x30, 0x39)]
  | .graph => [(0x21, 0x7E)]
  | .lower => [(0x61, 0x7A)]
  | .print => [(0x20, 0x7E)]
  | .punct => [(0x21, 0x2F), (0x3A, 0x40), (0x5B, 0x60), (0x7B, 0x7E)]
  | .space => [(0x09, 0x0D), (0x20, 0x20)]
  | .upper => [(0x41, 0x5A)]
  | .word => [(0x30, 0x39), (0x41, 0x5A), (0x5F, 0x5F), (0x61, 0x7A)]
  | .xdigit => [(0x30, 0x39), (0x41, 0x46), (0x61, 0x66)]

def Shorthand.ranges (unicode : Bool) : Shorthand → Ranges
  | .digit => if unicode then Text.Category.rangesOf [.nd] else AsciiClass.digit.ranges
  | .space => if unicode then Text.Property.ranges .whiteSpace else AsciiClass.space.ranges
  | .word => if unicode then Text.Property.Derived.word else AsciiClass.word.ranges

/-- The characters with a property, or those without it. -/
def propertyRanges (f : Flags) (query : PropertyQuery) (negated : Bool) : Option Ranges :=
  if f.unicode then query.ranges?.bind (f.foldAndNegate (negated != query.differs)) else none

/-- A literal in a class; without Unicode it must be of ASCII. -/
def classChar (f : Flags) (l : Literal) : Option Nat :=
  if f.unicode || l.char.toNat < 0x80 then some l.char.toNat else none

def SetOp.combine : SetOp → Ranges → Ranges → Ranges
  | .intersection => Ranges.inter
  | .difference => Ranges.diff
  | .symmetricDifference => Ranges.symmDiff

mutual

def classRanges (f : Flags) : ClassExpr → Option Ranges
  | .literal l => (classChar f l).map fun n => [(n, n)]
  | .range first last => do
    let first ← classChar f first
    let last ← classChar f last
    pure [(first, last)]
  | .ascii c negated => f.foldAndNegate negated c.ranges
  | .shorthand c negated => f.negate negated (c.ranges f.unicode)
  | .property query negated => propertyRanges f query negated
  | .bracket negated body => do
    let r ← classRanges f body
    f.foldAndNegate negated r
  | .union items => itemsRanges f items
  | .binary op left right => do
    let left ← classRanges f left
    let right ← classRanges f right
    pure (op.combine (f.fold left) (f.fold right))

def itemsRanges (f : Flags) : List ClassExpr → Option Ranges
  | [] => some []
  | item :: rest => do
    let r ← classRanges f item
    let s ← itemsRanges f rest
    pure (r.union s)

end

def classRegex (f : Flags) (r : Ranges) : Regex :=
  .ofClass ⟨r, f.unicode⟩

/-- What a literal matches. A byte of its own beyond ASCII would be part of a character. -/
def literalRegex (f : Flags) (l : Literal) : Option Regex :=
  if !f.unicode && l.isByte && 0x80 ≤ l.char.toNat then none
  else some (classRegex f (f.fold [(l.char.toNat, l.char.toNat)]))

/-- What the dot matches; without Unicode it would match parts of characters. -/
def dotRegex (f : Flags) : Option Regex :=
  if !f.unicode then none
  else if f.dotAll then some (classRegex f Ranges.full)
  else if f.crlf then some (classRegex f (Ranges.complement [(0x0A, 0x0A), (0x0D, 0x0D)]))
  else some (classRegex f (Ranges.complement [(0x0A, 0x0A)]))

def Assertion.look (f : Flags) : Assertion → Look
  | .lineStart => if f.multiline then .lineStart f.crlf else .textStart
  | .lineEnd => if f.multiline then .lineEnd f.crlf else .textEnd
  | .textStart => .textStart
  | .textEnd => .textEnd
  | .boundary => .boundary f.unicode
  | .notBoundary => .notBoundary f.unicode
  | .wordStart => .wordStart f.unicode
  | .wordEnd => .wordEnd f.unicode
  | .wordStartHalf => .wordStartHalf f.unicode
  | .wordEndHalf => .wordEndHalf f.unicode

mutual

/-- The meaning of an expression, and the flags for what follows it. -/
def meaning (f : Flags) : Expr → Option (Regex × Flags)
  | .empty => some (.empty, f)
  | .flags change => some (.empty, f.apply change)
  | .literal l => (literalRegex f l).map (·, f)
  | .dot => (dotRegex f).map (·, f)
  | .assertion a => some (.look (a.look f), f)
  | .shorthand c negated => (f.negate negated (c.ranges f.unicode)).map (classRegex f ·, f)
  | .property query negated => (propertyRanges f query negated).map (classRegex f ·, f)
  | .bracket negated body => do
    let r ← classRanges f body
    let r ← f.foldAndNegate negated r
    pure (classRegex f r, f)
  | .repetition body min max marked => do
    let (r, f) ← meaning f body
    pure (r.repeated min max (marked == f.swapGreed), f)
  | .group change body => do
    let (r, _) ← meaning (f.apply change) body
    pure (r, f)
  | .capture number body => do
    let (r, _) ← meaning f body
    pure (.capture number r, f)
  | .concat items => do
    let (rs, f) ← meanings f items
    pure (.sequence rs, f)
  | .alternation branches => do
    let (rs, f) ← meanings f branches
    pure (.choice rs, f)

/-- The meanings of expressions in turn; flags set in one hold in those behind it. -/
def meanings (f : Flags) : List Expr → Option (List Regex × Flags)
  | [] => some ([], f)
  | e :: rest => do
    let (r, f) ← meaning f e
    let (rs, f) ← meanings f rest
    pure (r :: rs, f)

end

end BinlogCursor.Pattern
