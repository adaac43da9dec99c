/-
Reading the numbers in a regular expression: the codes of characters in
hexadecimal digits, and the counts of a repetition. In verbose mode blanks and
comments may stand between any two characters of them.
-/
import BinlogCursor.Pattern.Expr
import BinlogCursor.Text.Blank
import BinlogCursor.Text.Decimal

namespace BinlogCursor.Pattern

/-- Skips blanks and comments; a comment ends with its line. -/
def skipComments (inComment : Bool) : List Char → List Char
  | [] => []
  | c :: cs =>
    if inComment then skipComments (c != '\n') cs
    else if Text.isBlank c then skipComments false cs
    else if c == '#' then skipComments true cs
    else c :: cs

def skipIgnored (verbose : Bool) (cs : List Char) : List Char :=
  if verbose then skipComments false cs else cs

/-- The value of a hexadecimal digit. -/
def hexValue? (c : Char) : Option Nat :=
  if Text.isDigit c then some (c.toNat - '0'.toNat)
  else if 'a' ≤ c && c ≤ 'f' then some (c.toNat - 'a'.toNat + 10)
  else if 'A' ≤ c && c ≤ 'F' then some (c.toNat - 'A'.toNat + 10)
  else none

/-- The character with a code, if there is one. -/
def charOfCode? (n : Nat) : Option Char :=
  if n.isValidChar then some (Char.ofNat n) else none

/-- Reads a fixed number of hexadecimal digits. -/
def readHexDigits (verbose : Bool) : Nat → Nat → List Char → Option (Nat × List Char)
  | 0, value, cs => some (value, cs)
  | _ + 1, _, [] => none
  | count + 1, value, c :: cs => do
    let d ← hexValue? c
    readHexDigits verbose count (value * 16 + d) (skipIgnored verbose cs)

/-- Reads hexadecimal digits up to a closing brace, as many as the fuel allows. -/
def readHexBraced (verbose : Bool) : Nat → Option Nat → List Char → Option (Nat × List Char)
  | 0, _, _ => none
  | _ + 1, _, [] => none
  | fuel + 1, value, c :: cs =>
    let rest := skipIgnored verbose cs
    if c == '\x7d' then value.map (·, rest)
    else do
      let d ← hexValue? c
      readHexBraced verbose fuel (some (value.getD 0 * 16 + d)) rest

/-- Reads the code of a character behind its letter, which asks for a count of digits unless
they stand in braces. -/
def readHex (verbose : Bool) (count : Nat) (cs : List Char) : Option (Literal × List Char) :=
  match skipIgnored verbose cs with
  | '\x7b' :: rest => do
    let rest := skipIgnored verbose rest
    let (code, rest) ← readHexBraced verbose (rest.length + 1) none rest
    let c ← charOfCode? code
    pure (⟨c, false⟩, rest)
  | rest => do
    let (code, rest) ← readHexDigits verbose count 0 rest
    let c ← charOfCode? code
    pure (⟨c, count == 2⟩, rest)

def takeCount (verbose : Bool) : Nat → Option Nat → List Char → Option Nat × List Char
  | 0, value, cs => (value, cs)
  | _ + 1, value, [] => (value, [])
  | fuel + 1, value, c :: cs =>
    if Text.isDigit c then
      let next := value.getD 0 * 10 + (c.toNat - '0'.toNat)
      takeCount verbose fuel (some next) (skipIgnored verbose cs)
    else (value, c :: cs)

/-- Reads a count within 32 bits, with blanks around it; `none` inside is a count that is not
there. -/
def readCount (verbose : Bool) (cs : List Char) : Option (Option Nat × List Char) :=
  let cs := Text.trimStart cs
  let (value, rest) := takeCount verbose (cs.length + 1) none cs
  let rest :=
    match rest with
    | c :: _ => if Text.isBlank c then skipIgnored verbose (Text.trimStart rest) else rest
    | [] => []
  if value.any (UInt32.size ≤ ·) then none else some (value, rest)

def readCounts (verbose : Bool) (cs : List Char) : Option (Nat × Option Nat × List Char) := do
  let (min, rest) ← readCount verbose (skipIgnored verbose cs)
  -- a repetition without a lower count is none
  let min ← min
  match rest with
  | '\x7d' :: rest => pure (min, some min, rest)
  | ',' :: rest =>
    match skipIgnored verbose rest with
    | '\x7d' :: rest => pure (min, none, rest)
    | rest =>
      let (max, rest) ← readCount verbose rest
      let max ← max
      match rest with
      | '\x7d' :: rest => if min ≤ max then pure (min, some max, rest) else none
      | _ => none
  | _ => none

end BinlogCursor.Pattern
