/-
Putting regular expressions together. What is put together is kept plain: no
sequence stands within a sequence and no choice within a choice, texts that follow
each other are one text, a class of one character is a text, and branches that
begin alike share their beginning.
-/
import BinlogCursor.Pattern.Regex

namespace BinlogCursor.Pattern.Regex

def ofClass (c : CharClass) : Regex :=
  match c.ranges with
  | [] => fail
  | [(first, last)] => if first = last then .text [Char.ofNat first] else .one c
  | _ => .one c

/-- An expression a number of times. Repeating what matches only the empty text adds nothing. -/
def repeated (body : Regex) (least : Nat) (most : Option Nat) (greedy : Bool) : Regex :=
  let (least, most) :=
    if body.isEmptyOnly then (min least 1, some (min (most.getD 1) 1)) else (least, most)
  if least = 0 ∧ most = some 0 then .empty
  else if least = 1 ∧ most = some 1 then body
  else .rep body least most greedy

def parts : Regex → List Regex
  | .empty => []
  | .seq parts => parts
  | r => [r]

def joinTexts : List Regex → List Regex
  | [] => []
  | .text s :: rest =>
    match joinTexts rest with
    | .text t :: rest => .text (s ++ t) :: rest
    | rest => .text s :: rest
  | r :: rest => r :: joinTexts rest

def sequence (rs : List Regex) : Regex :=
  match joinTexts (rs.flatMap parts) with
  | [] => .empty
  | [r] => r
  | parts => .seq parts

def branches : Regex → List Regex
  | .alt branches => branches
  | r => [r]

def singleChar? : Regex → Option Text.Ranges
  | .text [c] => some [(c.toNat, c.toNat)]
  | _ => none

def classChars? : Regex → Option Text.Ranges
  | .one c => some c.ranges
  | _ => none

def severalParts? : Regex → Option (List Regex)
  | .seq parts => some parts
  | _ => none

/-- A choice of branches that are no choices themselves; characters make a class, and so do
classes. -/
def choiceOf (rs : List Regex) : Regex :=
  match rs with
  | [] => fail
  | [r] => r
  | rs =>
    match (rs.mapM singleChar?).or (rs.mapM classChars?) with
    | some ranges => ofClass ⟨.ofList ranges.flatten, true⟩
    | none => .alt rs

def commonParts : List Regex → List Regex → List Regex
  | r :: rs, s :: ss => if same r s then r :: commonParts rs ss else []
  | _, _ => []

def sharedParts (rs : List Regex) : List Regex :=
  match rs.mapM severalParts? with
  | some (parts :: more) => more.foldl commonParts parts
  | _ => []

def dropParts (n : Nat) (rs : List Regex) : List Regex :=
  rs.map fun r => sequence (r.parts.drop n)

def choice (rs : List Regex) : Regex :=
  let rs := rs.flatMap branches
  let shared := sharedParts rs
  if rs.length < 2 || shared.isEmpty then choiceOf rs
  else
    let rest := choiceOf ((dropParts shared.length rs).flatMap branches)
    sequence (shared ++ [rest])

end BinlogCursor.Pattern.Regex
