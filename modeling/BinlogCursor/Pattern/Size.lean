/-
The size of the two automata of a regular expression, of which one reads a text
forward and the other backward. Repetitions are written out, and classes are
spelled in bytes. Expressions whose automata would take more than ten mebibytes are
refused, but a choice of a great many plain words is searched for without automata.
The sizes are counted to the byte as one release of the engine lays its states out;
the engine only says that there is a limit, so what is proved of patterns leaves it
to a hypothesis where the limit is met.
-/
import BinlogCursor.Pattern.Regex
import BinlogCursor.Pattern.Size.Bytes
import BinlogCursor.Pattern.Size.Tally

namespace BinlogCursor.Pattern

/-- The room beyond which an expression is refused. -/
def sizeLimit : Nat := 10 * 1024 * 1024

inductive Direction
  | forward
  | backward
deriving DecidableEq

/-- How many states may be remembered while a class is spelled. -/
def Direction.remembered : Direction → Nat
  | .forward => 10000
  | .backward => 1000

namespace Tally

/-- Spells pieces forward, to a state at their end: pieces that begin alike share their beginning,
and those that end alike share their ends as far as these are remembered. The depth is the number
of bytes. -/
def spell (target : Nat) : Nat → List (List ByteRange) → Tally → Nat × Tally
  | 0, _, t => (target, t)
  | depth + 1, pieces, t =>
    let groups := pieces.splitBy fun p q => p.head? == q.head?
    let (key, t) := groups.foldl
      (fun (key, t) group =>
        match group.head? with
        | some ((first, last) :: _) =>
          let rests := (group.map List.tail).filter fun p => !p.isEmpty
          let (next, t) := if rests.isEmpty then (target, t) else spell target depth rests t
          (key ++ [first, last, next], t)
        | _ => (key, t))
      (([] : Memo.Key), t)
    t.reuse key fun t => t.addSparse groups.length

def addForward (r : Text.Ranges) (t : Tally) : Tally :=
  (spell t.states 4 (piecesOf r) (t.addStates 1)).2

/-- Spells a class backward: every piece is a way of its own from the state where they part, but
uses states that other pieces have at their beginnings as far as these are remembered. -/
def addBackward (r : Text.Ranges) (t : Tally) : Tally :=
  let pieces := piecesOf r
  let start := t.states + 1
  let t := (t.addUnion pieces.length).addStates 1
  pieces.foldl
    (fun t piece =>
      (piece.foldl
        (fun (state, t) (first, last) => t.reuse [state, first, last] fun t => t.addStates 1)
        (start, t)).2)
    t

/-- A class: one of ASCII is a single state and its end, any other is spelled in bytes. -/
def addClass (d : Direction) (r : Text.Ranges) (t : Tally) : Tally :=
  if r.all fun (_, last) => last < 0x80 then (t.addStates 1).addSparse r.length
  else
    match d with
    | .forward => t.addForward r
    | .backward => t.addBackward r

def repeated (step : Tally → Tally) : Nat → Tally → Tally
  | 0, t => t
  | n + 1, t => if sizeLimit < t.size then t else repeated step n (step t)

def copies (step : Tally → Tally) (n : Nat) (t : Tally) : Tally :=
  if n = 0 then t.addStates 1 else repeated step n t

end Tally

def groupWords (words : List (List Nat)) : List (List (List Nat)) :=
  (words.filterMap List.head?).eraseDups.map fun b =>
    words.filterMap fun
      | b' :: rest => if b' = b then some rest else none
      | [] => none

/-- Adds the states of a tree of words, apart from the one where they all end. From a place where
a word ends, the longer words before and behind it in the list part. -/
def addWordTree : Nat → List (List Nat) → Tally → Tally
  | 0, _, t => t
  | depth + 1, words, t =>
    if words.all List.isEmpty then t
    else
      let words := match words with
        | [] :: _ => [] :: words.dropWhile List.isEmpty
        | words => words
      let ends := (words.filter List.isEmpty).length
      let chunks := ((words.splitBy fun p q => !p.isEmpty && !q.isEmpty).filter fun chunk =>
        !chunk.all List.isEmpty).map groupWords
      let t := chunks.foldl
        (fun t chunk =>
          let t := chunk.foldl (fun t words => addWordTree depth words t) t
          if chunk.length = 1 then t.addStates 1 else t.addSparse chunk.length)
        t
      t.addUnion (chunks.length + ends)

def wordsOf? (branches : List Regex) : Option (List (List Nat)) :=
  branches.mapM fun
    | .text chars => some (bytesOfText chars)
    | _ => none

mutual

def Regex.addTo (d : Direction) : Regex → Tally → Tally
  | .empty, t => t.addStates 1
  | .text chars, t => t.addStates (bytesOfText chars).length
  | .one c, t => t.addClass d c.ranges
  | .look _, t => t.addStates 1
  | .rep body min max _, t =>
    match min, max with
    | 0, some 1 => (body.addTo d (t.addUnion 2)).addStates 1
    | 0, none =>
      if body.takesSome then body.addTo d (t.addUnion 2)
      else (((body.addTo d t).addUnion 2).addUnion 2).addStates 1
    | 1, none => (body.addTo d t).addUnion 2
    | min, none => (body.addTo d (t.copies (body.addTo d) (min - 1))).addUnion 2
    | min, some max =>
      let t := t.copies (body.addTo d) min
      if min = max then t
      else (t.addStates 1).repeated (fun t => body.addTo d (t.addUnion 2)) (max - min)
  | .capture _ body, t =>
    match d with
    | .forward => (body.addTo d (t.addStates 1)).addStates 1
    | .backward => body.addTo d t
  | .seq parts, t => addSequence d parts t
  | .alt branches, t =>
    match wordsOf? branches with
    | some words =>
      let words := if d = .forward then words else words.map List.reverse
      addWordTree ((words.map List.length).foldl max 0 + 1) words (t.addStates 1)
    | none =>
      match branches with
      | first :: second :: rest =>
        let t := second.addTo d (first.addTo d t)
        addEach d rest ((t.addUnion branches.length).addStates 1)
      | branches => addEach d branches t

def addSequence (d : Direction) : List Regex → Tally → Tally
  | [], t => t
  | r :: rest, t =>
    match d with
    | .forward => addSequence d rest (r.addTo d t)
    | .backward => r.addTo d (addSequence d rest t)

def addEach (d : Direction) : List Regex → Tally → Tally
  | [], t => t
  | r :: rest, t => addEach d rest (r.addTo d t)

end

namespace Regex

/-- From how many plain words on a choice is searched for without automata. -/
def wordListLength : Nat := 3000

def isWordList : Regex → Bool
  | .alt branches => wordListLength ≤ branches.length && (wordsOf? branches).isSome
  | _ => false

def isAnchored (r : Regex) : Direction → Bool
  | .forward => r.startsText
  | .backward => r.endsText

/-- The states before an expression: where a match may begin anywhere, any byte may be skipped. -/
def addOpening (r : Regex) (d : Direction) (t : Tally) : Tally :=
  if r.isAnchored d then t.addStates 1 else ((t.addUnion 2).addStates 1).addSparse 1

/-- The size of an automaton. The whole is a numbered part, behind which there is a final state. -/
def size (r : Regex) (d : Direction) : Nat :=
  (((Regex.capture 0 r).addTo d (r.addOpening d (.start d.remembered))).addStates 1).size

def fits (r : Regex) : Bool :=
  r.isWordList || (r.size .forward ≤ sizeLimit && r.size .backward ≤ sizeLimit)

end Regex

end BinlogCursor.Pattern
