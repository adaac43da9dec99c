/-
The places of a text to which a regular expression leads. A set of places is a
number whose bit `i` stands for the place before character `i`, so that
alternatives are followed together and a text is matched without going back. What
is asked of characters and places is worked out once for the whole text
(`Regex.route`); then only sets of places are left (`Route.reach`).
-/
import BinlogCursor.Pattern.Regex

namespace BinlogCursor.Pattern

/-- A set of places in a text. -/
abbrev Places := Nat

/-- A regular expression on a text. -/
inductive Route
  /-- Over one character, from some places. -/
  | over (starts : Places)
  | through (places : Places)
  /-- Between `min` and `max` times, or any number from `min` on. -/
  | rep (body : Route) (min : Nat) (max : Option Nat)
  | seq (parts : List Route)
  | alt (branches : List Route)

namespace Regex

/-- The places before characters of a kind. -/
def charPlaces (kind : Char → Bool) : List Char → Places
  | [] => 0
  | c :: cs => (if kind c then 1 else 0) + 2 * charPlaces kind cs

/-- The places of some kind in a text that follows a character, or begins. -/
def lookPlaces (l : Look) (before : Option Char) : List Char → Places
  | [] => if l.holds before none then 1 else 0
  | c :: cs => (if l.holds before (some c) then 1 else 0) + 2 * lookPlaces l (some c) cs

def allPlaces (text : List Char) : Places :=
  Nat.pow 2 (text.length + 1) - 1

mutual

def route (text : List Char) : Regex → Route
  | .empty => .seq []
  | .text chars => .seq (chars.map fun c => .over (charPlaces (· == c) text))
  | .one c => .over (charPlaces c.ranges.contains text)
  | .look l => .through (lookPlaces l none text)
  | .rep body min max _ => .rep (route text body) min max
  | .capture _ body => route text body
  | .seq parts => .seq (routes text parts)
  | .alt branches => .alt (routes text branches)

def routes (text : List Char) : List Regex → List Route
  | [] => []
  | r :: rest => route text r :: routes text rest

end

end Regex

namespace Route

/-- Applies a step a number of times, and stops where it changes nothing. -/
def iterate (step : Places → Places) : Nat → Places → Places
  | 0, places => places
  | n + 1, places =>
    let next := step places
    if next = places then places else iterate step n next

/-- Applies a step up to a number of times, and stops when nothing new is reached. -/
def within (step : Places → Places) : Nat → Places → Places
  | 0, places => places
  | n + 1, places =>
    let next := places ||| step places
    if next = places then places else within step n next

/-- Adds what a step leads to until nothing new is reached, and takes one step more: all places that
some number of steps leads to, and those that at least one step leads to. Every step is taken from
all places found so far, so that repetitions within each other do not multiply the steps. -/
def saturate (step : Places → Places) : Nat → Places → Places × Places
  | 0, places => (places, step places)
  | n + 1, places =>
    let next := step places
    if places ||| next = places then (places, next) else saturate step n (places ||| next)

mutual

/-- The places that a route leads to from some places of a text of a length. A round that goes on
finds a new place, so as many rounds as there are places complete a repetition without a bound. -/
def reach (length : Nat) : Route → Places → Places
  | .over starts, places => 2 * (places &&& starts)
  | .through kept, places => places &&& kept
  | .rep body min (some max), places =>
    within (reach length body) (max - min) (iterate (reach length body) min places)
  | .rep body 0 none, places => (saturate (reach length body) (length + 1) places).1
  | .rep body (min + 1) none, places =>
    (saturate (reach length body) (length + 1) (iterate (reach length body) min places)).2
  | .seq parts, places => reachAll length parts places
  | .alt branches, places => reachAny length branches places

def reachAll (length : Nat) : List Route → Places → Places
  | [], places => places
  | r :: rest, places => reachAll length rest (reach length r places)

def reachAny (length : Nat) : List Route → Places → Places
  | [], _ => 0
  | r :: rest, places => reach length r places ||| reachAny length rest places

end

end Route

/-- The expression matches some part of a text. -/
def Regex.isMatch (r : Regex) (text : String) : Bool :=
  let text := text.toList
  (r.route text).reach text.length (Regex.allPlaces text) != 0

end BinlogCursor.Pattern
