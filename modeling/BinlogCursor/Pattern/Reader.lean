/-
Reading regular expressions. What a single part is written with (escapes,
classes, counts, flags) is read by functions that take it off the front of the
text; groups and alternations are kept on a stack of open groups, so that the
reading of a text is a run of steps (`Reading.step`), each of which takes at
least one character.
-/
import BinlogCursor.Pattern.Reader.Bracket
import BinlogCursor.Pattern.Reader.Group

namespace BinlogCursor.Pattern

/-- A group that is open: its number if it has one, its flags, what came before it in the group
around, and whether that is verbose. -/
structure Frame where
  number : Option Nat
  change : FlagChange
  verbose : Bool
  branches : List Expr
  items : List Expr

/-- How far a text has been read: the open groups, and within the innermost one the branches that
are complete and the parts of the current one, the last one first; how many groups are numbered,
and the names among them. -/
structure Reading where
  verbose : Bool
  frames : List Frame
  branches : List Expr
  items : List Expr
  captures : Nat
  names : List (List Char)

/-- The parts found so far, the last one first, as one expression. -/
def concatOf : List Expr → Expr
  | [] => .empty
  | [item] => item
  | items => .concat items.reverse

def contentOf (branches items : List Expr) : Expr :=
  match branches with
  | [] => concatOf items
  | branches => .alternation (concatOf items :: branches).reverse

namespace Reading

def start : Reading :=
  ⟨false, [], [], [], 0, []⟩

def push (r : Reading) (e : Expr) : Reading :=
  { r with items := e :: r.items }

/-- Puts a repetition around the last part, which must be there and not be flags. A question mark
behind it makes it lazy. -/
def repeatLast (r : Reading) (min : Nat) (max : Option Nat) (rest : List Char) :
    Option (Reading × List Char) :=
  let (marked, rest) := match rest with
    | '?' :: rest => (true, rest)
    | rest => (false, rest)
  match r.items with
  | [] => none
  | .flags _ :: _ => none
  | e :: before => some ({ r with items := .repetition e min max marked :: before }, rest)

def enter (r : Reading) (number : Option Nat) (change : FlagChange) : Reading :=
  { r with
    verbose := (change.value? .verbose).getD r.verbose
    frames := ⟨number, change, r.verbose, r.branches, r.items⟩ :: r.frames
    branches := []
    items := [] }

/-- Opens a group, or sets flags for the rest of the one around. Two groups may not share a name. -/
def opened (r : Reading) : Opening → Option Reading
  | .flags change =>
    some { r.push (.flags change) with verbose := (change.value? .verbose).getD r.verbose }
  | .group change => some (r.enter none change)
  | .capture name =>
    if name.any r.names.contains then none
    else
      let number := r.captures + 1
      some { r.enter (some number) [] with captures := number, names := name.toList ++ r.names }

def closed (r : Reading) : Option Reading :=
  match r.frames with
  | [] => none
  | f :: frames =>
    let content := contentOf r.branches r.items
    let group := match f.number with
      | some number => .capture number content
      | none => .group f.change content
    some { r with verbose := f.verbose, frames, branches := f.branches, items := group :: f.items }

/-- Reads one part of the text, which goes on with the given character. -/
def step (r : Reading) (c : Char) (rest : List Char) : Option (Reading × List Char) :=
  match c with
  | '(' => do
    let (opening, rest) ← readParenthesis r.verbose rest
    let r ← r.opened opening
    pure (r, rest)
  | ')' => r.closed.map (·, rest)
  | '|' => some ({ r with branches := concatOf r.items :: r.branches, items := [] }, rest)
  | '[' => (readBracket r.verbose rest).map fun (e, rest) => (r.push e, rest)
  | '?' => r.repeatLast 0 (some 1) rest
  | '*' => r.repeatLast 0 none rest
  | '+' => r.repeatLast 1 none rest
  | '\x7b' => do
    let (min, max, rest) ← readCounts r.verbose rest
    r.repeatLast min max (skipIgnored r.verbose rest)
  | '\\' => do
    let (escape, rest) ← readEscape r.verbose rest
    let e := match escape with
      | .literal l => .literal l
      | .assertion a => .assertion a
      | .shorthand c negated => .shorthand c negated
      | .property q negated => .property q negated
    pure (r.push e, rest)
  | '.' => some (r.push .dot, rest)
  | '^' => some (r.push (.assertion .lineStart), rest)
  | '$' => some (r.push (.assertion .lineEnd), rest)
  | c => some (r.push (.literal ⟨c, false⟩), rest)

/-- Reads on to the end; every step takes a character, so fuel for each of them is enough. -/
def run : Nat → Reading → List Char → Option Reading
  | 0, _, _ => none
  | fuel + 1, r, cs =>
    match skipIgnored r.verbose cs with
    | [] => some r
    | c :: rest => do
      let (r, rest) ← r.step c rest
      run fuel r rest

/-- Reads all of a text. -/
def runs (r : Reading) (cs : List Char) : Option Reading :=
  run (cs.length + 1) r cs

def finish (r : Reading) : Option Expr :=
  if r.frames.isEmpty then some (contentOf r.branches r.items) else none

end Reading

def Expr.parse? (cs : List Char) : Option Expr :=
  (Reading.start.runs cs).bind Reading.finish

end BinlogCursor.Pattern
