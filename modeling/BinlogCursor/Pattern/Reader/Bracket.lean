/-
Reading classes in brackets: members, ranges, named classes, classes within the
class, and the operations between them.
-/
import BinlogCursor.Pattern.Reader.Escape

namespace BinlogCursor.Pattern

def asciiOfName? (name : List Char) : Option AsciiClass :=
  match String.ofList name with
  | "alnum" => some .alnum
  | "alpha" => some .alpha
  | "ascii" => some .ascii
  | "blank" => some .blank
  | "cntrl" => some .cntrl
  | "digit" => some .digit
  | "graph" => some .graph
  | "lower" => some .lower
  | "print" => some .print
  | "punct" => some .punct
  | "space" => some .space
  | "upper" => some .upper
  | "word" => some .word
  | "xdigit" => some .xdigit
  | _ => none

/-- The named class behind an opening bracket, if one stands there: `:name:]`. -/
def readAscii? (cs : List Char) : Option (ClassExpr × List Char) := do
  let rest ← match cs with
    | ':' :: rest => some rest
    | _ => none
  let (negated, rest) := match rest with
    | '^' :: rest => (true, rest)
    | rest => (false, rest)
  let (name, rest) ← Text.cutFirst ':' rest
  match rest with
  | ']' :: rest => (asciiOfName? name).map fun c => (.ascii c negated, rest)
  | _ => none

/-- One item of a class that may begin a range: a literal, or else what no range can begin with. -/
def readClassItem (verbose : Bool) : List Char → Option (Escape × List Char)
  | [] => none
  | '\\' :: rest => readEscape verbose rest
  | c :: rest => some (.literal ⟨c, false⟩, rest)

def Escape.toClass? : Escape → Option ClassExpr
  | .literal l => some (.literal l)
  | .shorthand c negated => some (.shorthand c negated)
  | .property q negated => some (.property q negated)
  | .assertion _ => none

def Escape.toLiteral? : Escape → Option Literal
  | .literal l => some l
  | _ => none

/-- The character that follows the first one of a text; in verbose mode the first after blanks
and at most one number sign. -/
def peek (verbose : Bool) (cs : List Char) : Option Char :=
  if verbose then
    match Text.trimStart cs with
    | '#' :: rest => (Text.trimStart rest).head?
    | rest => rest.head?
  else cs.head?

def readClassRange (verbose : Bool) (cs : List Char) : Option (ClassExpr × List Char) := do
  let (first, rest) ← readClassItem verbose cs
  match skipIgnored verbose rest with
  | [] => none
  | '-' :: rest =>
    let next := peek verbose rest
    if next == some ']' || next == some '-' then
      let item ← first.toClass?
      pure (item, '-' :: rest)
    else
      let (last, rest) ← readClassItem verbose (skipIgnored verbose rest)
      let first ← first.toLiteral?
      let last ← last.toLiteral?
      if first.char ≤ last.char then pure (.range first last, rest) else none
  | rest =>
    let item ← first.toClass?
    pure (item, rest)

/-- Takes the hyphens at the beginning of a class, which stand for themselves. -/
def takeHyphens (verbose : Bool) : Nat → List Char → List ClassExpr × List Char
  | 0, cs => ([], cs)
  | fuel + 1, cs =>
    match cs with
    | '-' :: rest =>
      let (items, rest) := takeHyphens verbose fuel (skipIgnored verbose rest)
      (.literal ⟨'-', false⟩ :: items, rest)
    | cs => ([], cs)

structure ClassOpening where
  negated : Bool
  items : List ClassExpr
  rest : List Char

/-- Reads the beginning of a class: a caret, and hyphens or a bracket that stand for themselves. -/
def readOpening (verbose : Bool) (cs : List Char) : Option ClassOpening :=
  let (negated, cs) := match skipIgnored verbose cs with
    | '^' :: rest => (true, skipIgnored verbose rest)
    | rest => (false, rest)
  match takeHyphens verbose (cs.length + 1) cs with
  | (_, []) => none
  | ([], ']' :: rest) =>
    match skipIgnored verbose rest with
    | [] => none
    | rest => some ⟨negated, [.literal ⟨']', false⟩], rest⟩
  | (items, rest) => some ⟨negated, items.reverse, rest⟩

def unionOf : List ClassExpr → ClassExpr
  | [item] => item
  | items => .union items.reverse

/-- An operation that waits for its right side. -/
abbrev Pending := Option (SetOp × ClassExpr)

def Pending.close (pending : Pending) (items : List ClassExpr) : ClassExpr :=
  match pending with
  | some (op, left) => .binary op left (unionOf items)
  | none => unionOf items

def readClass (verbose : Bool) :
    Nat → Pending → List ClassExpr → List Char → Option (ClassExpr × List Char)
  | 0, _, _, _ => none
  | fuel + 1, pending, items, cs =>
    match skipIgnored verbose cs with
    | [] => none
    | '[' :: rest =>
      match readAscii? rest with
      | some (item, rest) => readClass verbose fuel pending (item :: items) rest
      | none => do
        let opening ← readOpening verbose rest
        let (body, rest) ← readClass verbose fuel none opening.items opening.rest
        readClass verbose fuel pending (.bracket opening.negated body :: items) rest
    | ']' :: rest => some (pending.close items, rest)
    | '&' :: '&' :: rest =>
      readClass verbose fuel (some (.intersection, pending.close items)) [] rest
    | '-' :: '-' :: rest =>
      readClass verbose fuel (some (.difference, pending.close items)) [] rest
    | '~' :: '~' :: rest =>
      readClass verbose fuel (some (.symmetricDifference, pending.close items)) [] rest
    | cs => do
      let (item, rest) ← readClassRange verbose cs
      readClass verbose fuel pending (item :: items) rest

def readBracket (verbose : Bool) (cs : List Char) : Option (Expr × List Char) := do
  let opening ← readOpening verbose cs
  let (body, rest) ← readClass verbose (cs.length + 1) none opening.items opening.rest
  pure (.bracket opening.negated body, rest)

end BinlogCursor.Pattern
