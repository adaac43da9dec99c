/-
Reading what an opening parenthesis begins: flags, or a group with or without a
name.
-/
import BinlogCursor.Pattern.Reader.Number
import BinlogCursor.Text.Letters
import BinlogCursor.Text.Split

namespace BinlogCursor.Pattern

def flagOfChar? : Char → Option Flag
  | 'i' => some .caseless
  | 'm' => some .multiline
  | 's' => some .dotAll
  | 'U' => some .swapGreed
  | 'u' => some .unicode
  | 'R' => some .crlf
  | 'x' => some .verbose
  | _ => none

/-- Reads flags up to a colon or closing parenthesis, which is left in the text. No flag may be
there twice, nor a hyphen, and a hyphen must have a flag behind it. -/
def readFlags (negating dangling : Bool) : FlagChange → List Char → Option (FlagChange × List Char)
  | _, [] => none
  | change, c :: cs =>
    if c == ':' || c == ')' then if dangling then none else some (change, c :: cs)
    else if c == '-' then if negating then none else readFlags true true change cs
    else
      match flagOfChar? c with
      | none => none
      | some flag =>
        if change.any (·.1 == flag) then none
        else readFlags negating false ((flag, !negating) :: change) cs

def isNameStart (c : Char) : Bool :=
  c == '_' || Text.isAlphabetic c

def isNamePart (c : Char) : Bool :=
  c == '_' || c == '.' || c == '[' || c == ']' || Text.isAlphabetic c || Text.isNumeric c

def readGroupName (cs : List Char) : Option (List Char × List Char) := do
  let (name, rest) ← Text.cutFirst '>' cs
  match name with
  | [] => none
  | c :: more =>
    if isNameStart c && more.all isNamePart then pure (name, rest) else none

inductive Opening
  /-- Flags for the rest of the group around. -/
  | flags (change : FlagChange)
  /-- A group with flags of its own. -/
  | group (change : FlagChange)
  /-- A group that is numbered, with its name if it has one. -/
  | capture (name : Option (List Char))

/-- Reads what follows an opening parenthesis. Looking around is not supported. -/
def readParenthesis (verbose : Bool) (cs : List Char) : Option (Opening × List Char) :=
  match skipIgnored verbose cs with
  | '?' :: '=' :: _ => none
  | '?' :: '!' :: _ => none
  | '?' :: '<' :: '=' :: _ => none
  | '?' :: '<' :: '!' :: _ => none
  | '?' :: 'P' :: '<' :: rest =>
    (readGroupName rest).map fun (name, rest) => (.capture (some name), rest)
  | '?' :: '<' :: rest =>
    (readGroupName rest).map fun (name, rest) => (.capture (some name), rest)
  | '?' :: rest =>
    match readFlags false false [] rest with
    | some (change, ':' :: rest) => some (.group change, rest)
    | some (change, ')' :: rest) => if change.isEmpty then none else some (.flags change, rest)
    | _ => none
  | rest => some (.capture none, rest)

end BinlogCursor.Pattern
