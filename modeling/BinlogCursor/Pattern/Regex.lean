/-
Regular expressions proper, and what can be said of the texts they match without
a text at hand: whether these are all empty, how short they may be, and whether
they must stand at the beginning or at the end.
-/
import BinlogCursor.Pattern.Look
import BinlogCursor.Text.Ranges

namespace BinlogCursor.Pattern

/-- A class of characters, of all of Unicode or of ASCII alone. -/
structure CharClass where
  ranges : Text.Ranges
  unicode : Bool
deriving DecidableEq

inductive Regex
  | empty
  | text (chars : List Char)
  | one (c : CharClass)
  /-- The empty text at a place of some kind. -/
  | look (l : Look)
  /-- Between `min` and `max` times, or any number from `min` on. -/
  | rep (body : Regex) (min : Nat) (max : Option Nat) (greedy : Bool)
  | capture (number : Nat) (body : Regex)
  | seq (parts : List Regex)
  | alt (branches : List Regex)

namespace Regex

/-- What matches no text. -/
def fail : Regex :=
  .one ⟨[], false⟩

mutual

def same : Regex → Regex → Bool
  | .empty, .empty => true
  | .text s, .text t => s == t
  | .one c, .one d => c == d
  | .look l, .look m => l == m
  | .rep a min max greedy, .rep b min' max' greedy' =>
    same a b && min == min' && max == max' && greedy == greedy'
  | .capture m a, .capture n b => m == n && same a b
  | .seq as, .seq bs => sameAll as bs
  | .alt as, .alt bs => sameAll as bs
  | _, _ => false

def sameAll : List Regex → List Regex → Bool
  | [], [] => true
  | a :: as, b :: bs => same a b && sameAll as bs
  | _, _ => false

end

mutual

def isEmptyOnly : Regex → Bool
  | .empty => true
  | .text _ => false
  | .one _ => false
  | .look _ => true
  | .rep body _ max _ => max.isSome && body.isEmptyOnly
  | .capture _ body => body.isEmptyOnly
  | .seq parts => areEmptyOnly parts
  | .alt branches => areEmptyOnly branches

def areEmptyOnly : List Regex → Bool
  | [] => true
  | r :: rest => r.isEmptyOnly && areEmptyOnly rest

end

mutual

/-- A lower bound for the length of the texts that the expression matches. There is none where some
part matches no text. -/
def shortest? : Regex → Option Nat
  | .empty => some 0
  | .text chars => some chars.length
  | .one c => if c.ranges.isEmpty then none else some 1
  | .look _ => some 0
  | .rep body min _ _ => body.shortest?.map (· * min)
  | .capture _ body => body.shortest?
  | .seq parts => (shortestOf? parts).map List.sum
  | .alt branches => (shortestOf? branches).bind List.min?

def shortestOf? : List Regex → Option (List Nat)
  | [] => some []
  | r :: rest => do
    let n ← r.shortest?
    let ns ← shortestOf? rest
    pure (n :: ns)

end

/-- The expression matches some text, and none that is empty. -/
def takesSome (r : Regex) : Bool :=
  r.shortest?.any (0 < ·)

mutual

/-- Every match begins where the text does, by a mark that comes before any character. -/
def startsText : Regex → Bool
  | .look l => l == .textStart
  | .rep body min _ _ => 0 < min && body.startsText
  | .capture _ body => body.startsText
  | .seq parts => startText parts
  | .alt branches => allStartText branches
  | _ => false

def startText : List Regex → Bool
  | [] => false
  | r :: rest => r.startsText || (r.isEmptyOnly && startText rest)

def allStartText : List Regex → Bool
  | [] => true
  | r :: rest => r.startsText && allStartText rest

end

mutual

/-- Every match ends where the text does, by a mark that comes after all characters. -/
def endsText : Regex → Bool
  | .look l => l == .textEnd
  | .rep body min _ _ => 0 < min && body.endsText
  | .capture _ body => body.endsText
  | .seq parts => endText parts
  | .alt branches => allEndText branches
  | _ => false

def endText : List Regex → Bool
  | [] => false
  | r :: rest => endText rest || (areEmptyOnly rest && r.endsText)

def allEndText : List Regex → Bool
  | [] => true
  | r :: rest => r.endsText && allEndText rest

end

end Regex

end BinlogCursor.Pattern
