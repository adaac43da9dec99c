/-
Reading what a backslash begins: characters by their letter or code, shorthands,
properties, and places such as the boundary of a word.
-/
import BinlogCursor.Pattern.Reader.Number
import BinlogCursor.Text.Split

namespace BinlogCursor.Pattern

inductive Escape
  | literal (l : Literal)
  | assertion (a : Assertion)
  | shorthand (c : Shorthand) (negated : Bool)
  | property (query : PropertyQuery) (negated : Bool)

/-- A backslash before the character gives the character itself: any of ASCII but letters,
digits and angle brackets. -/
def isEscapable (c : Char) : Bool :=
  c.toNat < 0x80 && !c.isAlphanum && c != '<' && c != '>'

/-- The text before and after the first occurrence of a mark of two characters. -/
def cutPair (a b : Char) : List Char → Option (List Char × List Char)
  | c :: d :: rest =>
    if c == a && d == b then some ([], rest)
    else (cutPair a b (d :: rest)).map fun (before, after) => (c :: before, after)
  | _ => none

def PropertyQuery.ofName (name : List Char) : PropertyQuery :=
  match cutPair '!' '=' name with
  | some (name, value) => .valued name value true
  | none =>
    match Text.cutFirst ':' name with
    | some (name, value) => .valued name value false
    | none =>
      match Text.cutFirst '=' name with
      | some (name, value) => .valued name value false
      | none => .named name

/-- Reads a name up to a closing brace. -/
def readName (verbose : Bool) : Nat → List Char → Option (List Char × List Char)
  | 0, _ => none
  | _ + 1, [] => none
  | fuel + 1, c :: cs =>
    if c == '\x7d' then some ([], cs)
    else do
      let (name, rest) ← readName verbose fuel (skipIgnored verbose cs)
      pure (c :: name, rest)

def readProperty (verbose : Bool) (cs : List Char) : Option (PropertyQuery × List Char) :=
  match skipIgnored verbose cs with
  | [] => none
  | '\\' :: _ => none
  | '\x7b' :: rest => do
    let rest := skipIgnored verbose rest
    let (name, rest) ← readName verbose (rest.length + 1) rest
    pure (.ofName name, rest)
  | c :: rest => some (.letter c, skipIgnored verbose rest)

def isBoundaryChar (c : Char) : Bool :=
  c.isAlpha || c == '-'

def takeBoundaryName (verbose : Bool) : Nat → List Char → List Char × List Char
  | 0, cs => ([], cs)
  | _ + 1, [] => ([], [])
  | fuel + 1, c :: cs =>
    if isBoundaryChar c then
      let (name, rest) := takeBoundaryName verbose fuel (skipIgnored verbose cs)
      (c :: name, rest)
    else ([], c :: cs)

def boundaryOfName? (name : List Char) : Option Assertion :=
  match String.ofList name with
  | "start" => some .wordStart
  | "end" => some .wordEnd
  | "start-half" => some .wordStartHalf
  | "end-half" => some .wordEndHalf
  | _ => none

/-- Reads what follows the letter of a word boundary: a kind in braces, or nothing that belongs
to it. Braces that begin with anything but a letter or hyphen are a count. -/
def readBoundary (verbose : Bool) (cs : List Char) : Option (Assertion × List Char) :=
  match cs with
  | '\x7b' :: rest =>
    match skipIgnored verbose rest with
    | [] => none
    | c :: inner =>
      if isBoundaryChar c then
        match takeBoundaryName verbose (inner.length + 2) (c :: inner) with
        | (name, '\x7d' :: rest) => (boundaryOfName? name).map (·, rest)
        | _ => none
      else some (.boundary, cs)
  | _ => some (.boundary, cs)

def readEscape (verbose : Bool) : List Char → Option (Escape × List Char)
  | [] => none
  | c :: rest =>
    match c with
    | 'x' => (readHex verbose 2 rest).map fun (l, rest) => (.literal l, rest)
    | 'u' => (readHex verbose 4 rest).map fun (l, rest) => (.literal l, rest)
    | 'U' => (readHex verbose 8 rest).map fun (l, rest) => (.literal l, rest)
    | 'p' => (readProperty verbose rest).map fun (q, rest) => (.property q false, rest)
    | 'P' => (readProperty verbose rest).map fun (q, rest) => (.property q true, rest)
    | 'd' => some (.shorthand .digit false, rest)
    | 'D' => some (.shorthand .digit true, rest)
    | 's' => some (.shorthand .space false, rest)
    | 'S' => some (.shorthand .space true, rest)
    | 'w' => some (.shorthand .word false, rest)
    | 'W' => some (.shorthand .word true, rest)
    | 'a' => some (.literal ⟨'\x07', false⟩, rest)
    | 'f' => some (.literal ⟨'\x0c', false⟩, rest)
    | 't' => some (.literal ⟨'\t', false⟩, rest)
    | 'n' => some (.literal ⟨'\n', false⟩, rest)
    | 'r' => some (.literal ⟨'\r', false⟩, rest)
    | 'v' => some (.literal ⟨'\x0b', false⟩, rest)
    | 'A' => some (.assertion .textStart, rest)
    | 'z' => some (.assertion .textEnd, rest)
    | 'b' => (readBoundary verbose rest).map fun (a, rest) => (.assertion a, rest)
    | 'B' => some (.assertion .notBoundary, rest)
    | '<' => some (.assertion .wordStart, rest)
    | '>' => some (.assertion .wordEnd, rest)
    | c => if isEscapable c then some (.literal ⟨c, false⟩, rest) else none

end BinlogCursor.Pattern
