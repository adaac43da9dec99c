/-
Regular expressions as they are written: groups, flags and classes in the shape
in which they stand, before flags are applied and classes are worked out.
-/

namespace BinlogCursor.Pattern

/-- What a flag letter switches. -/
inductive Flag
  /-- `i`: letters match in either case. -/
  | caseless
  /-- `m`: `^` and `$` match at the ends of lines. -/
  | multiline
  /-- `s`: the dot matches line ends as well. -/
  | dotAll
  /-- `U`: repetitions are lazy unless marked. -/
  | swapGreed
  /-- `u`: classes are those of Unicode. -/
  | unicode
  /-- `R`: lines end in a carriage return, too. -/
  | crlf
  /-- `x`: blanks and comments may stand between the parts. -/
  | verbose
deriving DecidableEq

/-- Flags that are switched on or off. -/
abbrev FlagChange := List (Flag × Bool)

def FlagChange.value? (change : FlagChange) (flag : Flag) : Option Bool :=
  change.lookup flag

/-- What is asked of a place in the text. -/
inductive Assertion
  | lineStart
  | lineEnd
  | textStart
  | textEnd
  | boundary
  | notBoundary
  | wordStart
  | wordEnd
  | wordStartHalf
  | wordEndHalf
deriving DecidableEq

/-- The classes with a letter of their own. -/
inductive Shorthand
  | digit
  | space
  | word
deriving DecidableEq

/-- The classes of ASCII characters that have a name within brackets. -/
inductive AsciiClass
  | alnum | alpha | ascii | blank | cntrl | digit | graph | lower | print | punct | space | upper
  | word | xdigit
deriving DecidableEq

inductive PropertyQuery
  /-- A single letter after the `p`. -/
  | letter (c : Char)
  | named (name : List Char)
  /-- A property and one of its values in braces. -/
  | valued (name : List Char) (value : List Char) (differs : Bool)
deriving DecidableEq

/-- The ways in which two classes are put together. -/
inductive SetOp
  | intersection
  | difference
  | symmetricDifference
deriving DecidableEq

/-- A literal character, and whether it was written as a byte of two hexadecimal digits. -/
structure Literal where
  char : Char
  isByte : Bool
deriving DecidableEq

/-- What may stand between brackets. -/
inductive ClassExpr
  | literal (l : Literal)
  | range (first last : Literal)
  | ascii (c : AsciiClass) (negated : Bool)
  | shorthand (c : Shorthand) (negated : Bool)
  | property (query : PropertyQuery) (negated : Bool)
  | bracket (negated : Bool) (body : ClassExpr)
  | union (items : List ClassExpr)
  | binary (op : SetOp) (left right : ClassExpr)

/-- A regular expression as it is written. -/
inductive Expr
  | empty
  | flags (change : FlagChange)
  | literal (l : Literal)
  | dot
  | assertion (a : Assertion)
  | shorthand (c : Shorthand) (negated : Bool)
  | property (query : PropertyQuery) (negated : Bool)
  | bracket (negated : Bool) (body : ClassExpr)
  /-- A repetition, and whether a question mark makes it lazy. -/
  | repetition (body : Expr) (min : Nat) (max : Option Nat) (marked : Bool)
  | group (change : FlagChange) (body : Expr)
  | capture (number : Nat) (body : Expr)
  | concat (items : List Expr)
  | alternation (branches : List Expr)

mutual

/-- How deeply classes are nested; only what holds other parts counts. -/
def ClassExpr.depth : ClassExpr → Nat
  | .bracket _ body => body.depth + 1
  | .union [] => 0
  | .union items => ClassExpr.itemsDepth items + 1
  | .binary _ left right => max left.depth right.depth + 1
  | _ => 0

def ClassExpr.itemsDepth : List ClassExpr → Nat
  | [] => 0
  | item :: rest => max item.depth (ClassExpr.itemsDepth rest)

end

mutual

def Expr.depth : Expr → Nat
  | .bracket _ body => body.depth + 1
  | .repetition body _ _ _ => body.depth + 1
  | .group _ body => body.depth + 1
  | .capture _ body => body.depth + 1
  | .concat items => Expr.itemsDepth items + 1
  | .alternation branches => Expr.itemsDepth branches + 1
  | _ => 0

def Expr.itemsDepth : List Expr → Nat
  | [] => 0
  | item :: rest => max item.depth (Expr.itemsDepth rest)

end

/-- The depth beyond which an expression is refused. -/
def depthLimit : Nat := 250

end BinlogCursor.Pattern
