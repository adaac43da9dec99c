/-
The steps in which a pattern is read. What a step does is found in the text alone (`readMove`), and
is then done to what has been read (`Reading.make`). So each is looked at by itself: with a
parenthesis and more behind a text, the same moves are found in it, but for a boundary of words that
is left without its brace (`readMove_apart`), and only the move that closes a group looks at those
that are open around it (`Reading.make_under`).
-/
import BinlogCursor.Pattern.Reader
import BinlogCursor.Proofs.Pattern.Bracket
import BinlogCursor.Proofs.Pattern.Group

namespace BinlogCursor.Pattern

variable {verbose : Bool} {s cs x : List Char} {c : Char}

/-- What a step does to what has been read. -/
inductive Move
  | push (e : Expr)
  | repetition (min : Nat) (max : Option Nat) (marked : Bool)
  | opening (o : Opening)
  | closing
  | branch

/-! ## Finding a move -/

/-- The part that an escape stands for. -/
def Escape.toExpr : Escape → Expr
  | .literal l => .literal l
  | .assertion a => .assertion a
  | .shorthand c negated => .shorthand c negated
  | .property q negated => .property q negated

/-- A question mark behind a repetition, if there is one, and what is behind it. -/
def takeMark : List Char → Bool × List Char
  | '?' :: rest => (true, rest)
  | rest => (false, rest)

/-- A repetition with these counts, lazy if there is a mark for that. -/
def takeRepetition (min : Nat) (max : Option Nat) (cs : List Char) : Move × List Char :=
  (.repetition min max (takeMark cs).1, (takeMark cs).2)

/-- The move for which a text stands that goes on with the given character. -/
def readMove (verbose : Bool) (c : Char) (cs : List Char) : Option (Move × List Char) :=
  match c with
  | '(' => (readParenthesis verbose cs).map fun p => (.opening p.1, p.2)
  | ')' => some (.closing, cs)
  | '|' => some (.branch, cs)
  | '[' => (readBracket verbose cs).map fun p => (.push p.1, p.2)
  | '?' => some (takeRepetition 0 (some 1) cs)
  | '*' => some (takeRepetition 0 none cs)
  | '+' => some (takeRepetition 1 none cs)
  | '\x7b' => ((readCounts verbose cs).map countsOf).bind fun p =>
    some (takeRepetition p.1.1 p.1.2 (skipIgnored verbose p.2))
  | '\\' => (readEscape verbose cs).map fun p => (.push p.1.toExpr, p.2)
  | '.' => some (.push .dot, cs)
  | '^' => some (.push (.assertion .lineStart), cs)
  | '$' => some (.push (.assertion .lineEnd), cs)
  | c => some (.push (.literal ⟨c, false⟩), cs)

theorem takeMark_append (cs s : List Char) :
    takeMark (cs ++ ')' :: s) = ((takeMark cs).1, (takeMark cs).2 ++ ')' :: s) := by
  fun_cases takeMark cs with
  | case1 rest => rfl
  | case2 _ hmark =>
    rw [takeMark]
    exact not_begins (p := ['?']) (by decide) hmark

theorem takeMark_suffix (cs : List Char) : (takeMark cs).2 <:+ cs := by
  fun_cases takeMark cs with
  | case1 rest => exact List.suffix_cons _ _
  | case2 => exact List.suffix_rfl

theorem takeRepetition_suffix {m : Move} {min : Nat} {max : Option Nat}
    (h : some (takeRepetition min max cs) = some (m, x)) : x <:+ cs := by
  obtain ⟨-, rfl⟩ := Prod.mk.inj (Option.some.inj h)
  exact takeMark_suffix cs

theorem takeRepetition_apart (min : Nat) (max : Option Nat) (s cs : List Char) :
    Apart s (some (takeRepetition min max cs))
      (some (takeRepetition min max (cs ++ ')' :: s))) := by
  rw [takeRepetition, takeRepetition, takeMark_append]
  exact .pure _ (.same rfl)

/-- Only a parenthesis closes a group. -/
theorem eq_of_readMove_closing (h : readMove verbose c cs = some (.closing, x)) : c = ')' := by
  rw [readMove.eq_def] at h
  split at h
  case h_2 => rfl
  all_goals simp [takeRepetition, Option.bind_eq_some_iff] at h

theorem readMove_suffix {m : Move} (h : readMove verbose c cs = some (m, x)) : x <:+ cs := by
  rw [readMove.eq_def] at h
  split at h
  any_goals exact suffix_of_some h
  · obtain ⟨o, ho⟩ := exists_of_map h
    exact readParenthesis_suffix ho
  · obtain ⟨e, he⟩ := exists_of_map h
    exact readBracket_suffix he
  · exact takeRepetition_suffix h
  · exact takeRepetition_suffix h
  · exact takeRepetition_suffix h
  · obtain ⟨⟨counts, z⟩, hcounts, h⟩ := Option.bind_eq_some_iff.mp h
    exact ((takeRepetition_suffix h).trans (skipIgnored_suffix verbose z)).trans
      (readCounts_suffix hcounts)
  · obtain ⟨e, he⟩ := exists_of_map (f := fun e : Escape => Move.push e.toExpr) h
    cases cs with
    | nil => cases he
    | cons c cs => exact (readEscape_suffix he).trans (List.suffix_cons c cs)

/-- A brace with only blanks behind it begins no count. -/
theorem readMove_blank (h : skipIgnored verbose cs = []) : readMove verbose '\x7b' cs = none := by
  show ((readCounts verbose cs).map countsOf).bind _ = none
  rw [readCounts_eq, h]
  rfl

/-- A text that ends in the letter of a boundary and an opening brace is refused there. With a
parenthesis behind it the boundary is read and the brace is left. -/
theorem readMove_dangling {rest : List Char} (h : Dangles verbose s rest (readBoundary verbose rest)
      (readBoundary verbose (rest ++ ')' :: s))) :
    readMove verbose '\\' ('b' :: rest) = none ∧ readMove verbose '\\' ('b' :: rest ++ ')' :: s) =
      some (.push (.assertion .boundary), rest ++ ')' :: s) := by
  have hletter : ∀ cs, readMove verbose '\\' ('b' :: cs) =
      (readBoundary verbose cs).map fun p => (.push (.assertion p.1), p.2) := by
    intro cs
    show ((readBoundary verbose cs).map _).map _ = _
    rw [Option.map_map]
    rfl
  rw [List.cons_append, hletter, hletter, h.alone, h.behind]
  exact ⟨rfl, rfl⟩

/-- The same move is found in a text with more behind it, but where a boundary is left without its
brace. -/
theorem readMove_apart (verbose : Bool) (c : Char) (s cs : List Char) :
    Apart s (readMove verbose c cs) (readMove verbose c (cs ++ ')' :: s)) ∨
      ∃ inner, skipIgnored verbose inner = [] ∧ readMove verbose c cs = none ∧
        readMove verbose c (cs ++ ')' :: s) =
          some (.push (.assertion .boundary), '\x7b' :: inner ++ ')' :: s) := by
  by_cases hslash : c = '\\'
  · subst hslash
    rcases readEscape_apart verbose s cs with h | ⟨rest, rfl, h⟩
    · exact .inl (h.map fun e => Move.push e.toExpr)
    · obtain ⟨inner, rfl, hblank⟩ := h.blank
      obtain ⟨halone, hbehind⟩ := readMove_dangling h
      exact .inr ⟨inner, hblank, halone, hbehind⟩
  refine .inl ?_
  rw [readMove.eq_def, readMove.eq_def]
  split
  any_goals exact .pure _ (.same rfl)
  · exact (readParenthesis_apart verbose s cs).map Move.opening
  · exact (readBracket_apart verbose s cs).map Move.push
  · exact takeRepetition_apart _ _ s cs
  · exact takeRepetition_apart _ _ s cs
  · exact takeRepetition_apart _ _ s cs
  · refine (readCounts_apart verbose s cs).bind (fun counts z _ => ?_) (fun counts => rfl)
      fun counts z m x h => (takeRepetition_suffix h).trans (skipIgnored_suffix verbose z)
    refine (skipIgnored_remains verbose s z).apart (fun hz => ?_) rfl fun z m x h =>
      takeRepetition_suffix h
    dsimp only at hz ⊢
    rw [hz]
    exact takeRepetition_apart _ _ s _
  · exact absurd rfl hslash

namespace Reading

/-! ## Making a move -/

/-- Puts a repetition around the last part. -/
def repeatMarked (r : Reading) (min : Nat) (max : Option Nat) (marked : Bool) : Option Reading :=
  match r.items with
  | [] => none
  | .flags _ :: _ => none
  | e :: before => some { r with items := .repetition e min max marked :: before }

def make (r : Reading) : Move → Option Reading
  | .push e => some (r.push e)
  | .repetition min max marked => r.repeatMarked min max marked
  | .opening o => r.opened o
  | .closing => r.closed
  | .branch => some { r with branches := concatOf r.items :: r.branches, items := [] }

theorem repeatLast_eq (r : Reading) (min : Nat) (max : Option Nat) (cs : List Char) :
    r.repeatLast min max cs =
      (r.repeatMarked min max (takeMark cs).1).map (·, (takeMark cs).2) := by
  obtain ⟨verbose, frames, branches, items, captures, names⟩ := r
  cases items with
  | nil => rfl
  | cons e before => cases e <;> rfl

/-- A step finds a move and makes it. -/
theorem step_eq (r : Reading) (c : Char) (cs : List Char) : r.step c cs =
    (readMove r.verbose c cs).bind fun p => (r.make p.1).map (·, p.2) := by
  rw [step.eq_def]
  split
  · show (readParenthesis r.verbose cs).bind _ = ((readParenthesis r.verbose cs).map _).bind _
    cases readParenthesis r.verbose cs with
    | none => rfl
    | some p =>
      show (r.opened p.1).bind _ = (r.opened p.1).map _
      cases r.opened p.1 <;> rfl
  · rfl
  · rfl
  · show _ = ((readBracket r.verbose cs).map _).bind _
    cases readBracket r.verbose cs <;> rfl
  · exact repeatLast_eq r _ _ cs
  · exact repeatLast_eq r _ _ cs
  · exact repeatLast_eq r _ _ cs
  · show (readCounts r.verbose cs).bind _ = (((readCounts r.verbose cs).map _).bind _).bind _
    cases readCounts r.verbose cs with
    | none => rfl
    | some p => exact repeatLast_eq r _ _ _
  · show (readEscape r.verbose cs).bind _ = ((readEscape r.verbose cs).map _).bind _
    cases readEscape r.verbose cs <;> rfl
  · rfl
  · rfl
  · rfl
  · -- Any other character stands for itself.
    rw [readMove]
    · rfl
    all_goals assumption

/-- A reading within groups that are open around it. -/
def under (r : Reading) (outer : List Frame) : Reading :=
  { r with frames := r.frames ++ outer }

theorem under_nil (r : Reading) : r.under [] = r := by
  rw [under, List.append_nil]

/-- Only the move that closes the innermost group looks at the groups that are open. -/
theorem make_under {r : Reading} {m : Move} (h : m = .closing → r.frames ≠ [])
    (outer : List Frame) : (r.under outer).make m = (r.make m).map (·.under outer) := by
  obtain ⟨verbose, frames, branches, items, captures, names⟩ := r
  cases m with
  | push e => rfl
  | repetition min max marked =>
    cases items with
    | nil => rfl
    | cons e before => cases e <;> rfl
  | opening o =>
    cases o with
    | flags change => rfl
    | group change => rfl
    | capture name =>
      simp only [make, opened]
      show (if name.any names.contains then _ else _) = _
      split <;> rfl
  | closing =>
    cases frames with
    | nil => exact absurd rfl (h rfl)
    | cons f frames => rfl
  | branch => rfl

theorem step_under {r : Reading} (h : c = ')' → r.frames ≠ []) (outer : List Frame)
    (rest : List Char) : (r.under outer).step c rest =
      (r.step c rest).map fun p => (p.1.under outer, p.2) := by
  rw [step_eq, step_eq]
  show (readMove r.verbose c rest).bind _ = _
  cases hmove : readMove r.verbose c rest with
  | none => rfl
  | some p =>
    have hclosing : p.1 = .closing → r.frames ≠ [] := fun hp =>
      h (eq_of_readMove_closing (x := p.2) (by rw [hmove, ← hp]))
    rw [Option.bind_some, Option.bind_some, make_under hclosing]
    cases r.make p.1 <;> rfl

/-! ## One step -/

theorem step_suffix {r r' : Reading} (h : r.step c cs = some (r', x)) : x <:+ cs := by
  rw [step_eq] at h
  obtain ⟨m, hm⟩ := exists_of_filterMap h
  exact readMove_suffix hm

/-- One step takes the same of a text with more behind it, but where a boundary is left without its
brace. -/
theorem step_apart (r : Reading) (c : Char) (s cs : List Char) :
    Apart s (r.step c cs) (r.step c (cs ++ ')' :: s)) ∨
      ∃ inner, skipIgnored r.verbose inner = [] ∧ r.step c cs = none ∧
        r.step c (cs ++ ')' :: s) =
          some (r.push (.assertion .boundary), '\x7b' :: inner ++ ')' :: s) := by
  rw [step_eq, step_eq]
  rcases readMove_apart r.verbose c s cs with h | ⟨inner, hblank, halone, hbehind⟩
  · exact .inl (h.filterMap r.make)
  · rw [halone, hbehind]
    exact .inr ⟨inner, hblank, rfl, rfl⟩

end Reading

end BinlogCursor.Pattern
