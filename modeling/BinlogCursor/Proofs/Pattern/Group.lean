/-
What follows an opening parenthesis is read by itself as it is read with a closing
one and more behind it (`readParenthesis_apart`).
-/
import BinlogCursor.Pattern.Reader.Group
import BinlogCursor.Proofs.Pattern.Apart

namespace BinlogCursor.Pattern

variable {verbose : Bool} {s cs x : List Char}

/-! ## Flags and names of groups -/

theorem readFlags_suffix {negating dangling : Bool} {change change' : FlagChange}
    (h : readFlags negating dangling change cs = some (change', x)) : x <:+ cs := by
  induction cs generalizing negating dangling change with
  | nil => cases h
  | cons c cs ih =>
    rw [readFlags] at h
    split at h
    · split at h
      · cases h
      · exact suffix_of_some h
    · split at h
      · split at h
        · cases h
        · exact (ih h).trans (List.suffix_cons c cs)
      · split at h
        · cases h
        · split at h
          · cases h
          · exact (ih h).trans (List.suffix_cons c cs)

theorem readFlags_meets (negating dangling : Bool) (change : FlagChange) (cs : List Char) :
    Meets s (readFlags negating dangling change cs)
      (readFlags negating dangling change (cs ++ ')' :: s)) := by
  induction cs generalizing negating dangling change with
  | nil => exact .atEnd nofun fun change' x h => readFlags_suffix h
  | cons c cs ih =>
    rw [List.cons_append, readFlags, readFlags]
    split
    · split
      · exact Apart.none.meets
      · exact .same change (c :: cs) rfl rfl
    · split
      · split
        · exact Apart.none.meets
        · exact ih _ _ _
      · split
        · exact Apart.none.meets
        · split
          · exact Apart.none.meets
          · exact ih _ _ _

/-- The name of a group, if it is one. -/
def groupName? : List Char → Option (List Char)
  | [] => none
  | c :: more => if isNameStart c && more.all isNamePart then some (c :: more) else none

theorem readGroupName_eq (cs : List Char) : readGroupName cs =
    (Text.cutFirst '>' cs).bind fun p => (groupName? p.1).map (·, p.2) := by
  rw [readGroupName]
  show (Text.cutFirst '>' cs).bind _ = _
  congr 1
  funext ⟨name, rest⟩
  cases name with
  | nil => rfl
  | cons c more =>
    simp only [groupName?]
    split <;> rfl

theorem readGroupName_suffix {name : List Char} (h : readGroupName cs = some (name, x)) :
    x <:+ cs := by
  rw [readGroupName_eq] at h
  obtain ⟨before, hcut⟩ := exists_of_filterMap h
  exact cutFirst_suffix hcut

theorem readGroupName_apart (s cs : List Char) :
    Apart s (readGroupName cs) (readGroupName (cs ++ ')' :: s)) := by
  rw [readGroupName_eq, readGroupName_eq]
  exact (cutFirst_apart (by decide) s cs).filterMap groupName?

/-! ## Opening parentheses -/

/-- Reads the mark behind flags. -/
def closeFlags (change : FlagChange) : List Char → Option (Opening × List Char)
  | ':' :: rest => some (.group change, rest)
  | ')' :: rest => if change.isEmpty then none else some (.flags change, rest)
  | _ => none

/-- Reads what is behind the question mark of a group. -/
def readMarked : List Char → Option (Opening × List Char)
  | '=' :: _ => none
  | '!' :: _ => none
  | '<' :: '=' :: _ => none
  | '<' :: '!' :: _ => none
  | 'P' :: '<' :: rest => (readGroupName rest).map fun p => (.capture (some p.1), p.2)
  | '<' :: rest => (readGroupName rest).map fun p => (.capture (some p.1), p.2)
  | rest => (readFlags false false [] rest).bind fun p => closeFlags p.1 p.2

/-- Reads what is behind an opening parenthesis, where blanks have been skipped. -/
def readBehindParenthesis : List Char → Option (Opening × List Char)
  | '?' :: rest => readMarked rest
  | rest => some (.capture none, rest)

theorem bind_closeFlags (o : Option (FlagChange × List Char)) :
    (o.bind fun p => closeFlags p.1 p.2) = match o with
      | some (change, ':' :: rest) => some (.group change, rest)
      | some (change, ')' :: rest) => if change.isEmpty then none else some (.flags change, rest)
      | _ => none := by
  rcases o with _ | ⟨change, cs⟩
  · rfl
  · rw [Option.bind_some]
    fun_cases closeFlags change cs with
    | case1 rest => rfl
    | case2 rest h => exact (if_pos h).symm
    | case3 rest h => exact (if_neg h).symm
    | case4 => split <;> simp_all

theorem readParenthesis_eq (cs : List Char) :
    readParenthesis verbose cs = readBehindParenthesis (skipIgnored verbose cs) := by
  rw [readParenthesis]
  generalize skipIgnored verbose cs = cs
  fun_cases readBehindParenthesis cs with
  | case1 rest =>
    fun_cases readMarked rest
    any_goals rfl
    · split <;> grind
    · rw [bind_closeFlags]
      split <;> grind
  | case2 => split <;> simp_all

theorem closeFlags_suffix {change : FlagChange} {o : Opening}
    (h : closeFlags change cs = some (o, x)) : ∃ c, c :: x <:+ cs := by
  rw [closeFlags.eq_def] at h
  split at h
  · obtain ⟨-, rfl⟩ := Prod.mk.inj (Option.some.inj h)
    exact ⟨_, List.suffix_rfl⟩
  · split at h
    · cases h
    · obtain ⟨-, rfl⟩ := Prod.mk.inj (Option.some.inj h)
      exact ⟨_, List.suffix_rfl⟩
  · cases h

theorem closeFlags_apart (change : FlagChange) (cs : List Char) :
    Apart s (closeFlags change cs) (closeFlags change (cs ++ ')' :: s)) := by
  fun_cases closeFlags change cs with
  | case1 rest => exact .pure _ (.same rfl)
  | case2 rest h =>
    rw [List.cons_append, closeFlags, if_pos h]
    exact .none
  | case3 rest h =>
    rw [List.cons_append, closeFlags, if_neg h]
    exact .pure _ (.same rfl)
  | case4 _ hcolon hclose =>
    cases cs with
    | nil =>
      refine .refused rfl fun o x h => ?_
      obtain ⟨c, hc⟩ := closeFlags_suffix h
      exact suffix_of_cons_suffix hc
    | cons c cs =>
      rw [closeFlags]
      · exact .none
      · exact not_begins (p := [':']) (by decide) hcolon
      · intro rest heq
        exact hclose cs (by rw [(List.cons.inj heq).1])

theorem readMarked_suffix {o : Opening} (h : readMarked cs = some (o, x)) : x <:+ cs := by
  rw [readMarked.eq_def] at h
  split at h
  any_goals cases h
  · rename_i rest
    obtain ⟨name, hname⟩ := exists_of_map (f := fun name => Opening.capture (some name)) h
    exact (readGroupName_suffix hname).trans
      ((List.suffix_cons _ rest).trans (List.suffix_cons _ _))
  · rename_i rest _ _
    obtain ⟨name, hname⟩ := exists_of_map (f := fun name => Opening.capture (some name)) h
    exact (readGroupName_suffix hname).trans (List.suffix_cons _ rest)
  · obtain ⟨⟨change, rest⟩, hflags, h⟩ := Option.bind_eq_some_iff.mp h
    obtain ⟨c, hc⟩ := closeFlags_suffix h
    exact ((List.suffix_cons c x).trans hc).trans (readFlags_suffix hflags)

theorem readMarked_apart (s cs : List Char) :
    Apart s (readMarked cs) (readMarked (cs ++ ')' :: s)) := by
  have hflags := (readFlags_meets (s := s) false false [] cs).bind
    (f := fun p => closeFlags p.1 p.2) (g := fun p => closeFlags p.1 p.2)
    (fun change z _ => closeFlags_apart change z) (fun _ => rfl)
    fun _ _ _ _ h => closeFlags_suffix h
  fun_cases readMarked cs with
  | case1 rest => exact .none
  | case2 rest => exact .none
  | case3 rest => exact .none
  | case4 rest => exact .none
  | case5 rest => exact (readGroupName_apart s rest).map fun name => Opening.capture (some name)
  | case6 rest heq hbang =>
    rw [List.cons_append, readMarked]
    · exact (readGroupName_apart s rest).map fun name => Opening.capture (some name)
    · exact not_begins (p := ['=']) (by decide) heq
    · exact not_begins (p := ['!']) (by decide) hbang
  | case7 _ heq hbang hbehind hnot hnamed hname =>
    rw [readMarked]
    · exact hflags
    · exact not_begins (p := ['=']) (by decide) heq
    · exact not_begins (p := ['!']) (by decide) hbang
    · exact not_begins (p := ['<', '=']) (by decide) hbehind
    · exact not_begins (p := ['<', '!']) (by decide) hnot
    · exact not_begins (p := ['P', '<']) (by decide) hnamed
    · exact not_begins (p := ['<']) (by decide) hname

theorem readBehindParenthesis_apart (s cs : List Char) :
    Apart s (readBehindParenthesis cs) (readBehindParenthesis (cs ++ ')' :: s)) := by
  fun_cases readBehindParenthesis cs with
  | case1 rest => exact readMarked_apart s rest
  | case2 _ hmark =>
    rw [readBehindParenthesis]
    · exact .pure _ (.same rfl)
    · exact not_begins (p := ['?']) (by decide) hmark

theorem readBehindParenthesis_suffix {o : Opening}
    (h : readBehindParenthesis cs = some (o, x)) : x <:+ cs := by
  rw [readBehindParenthesis.eq_def] at h
  split at h
  · exact (readMarked_suffix h).trans (List.suffix_cons _ _)
  · exact suffix_of_some h

theorem readParenthesis_suffix {o : Opening} (h : readParenthesis verbose cs = some (o, x)) :
    x <:+ cs := by
  rw [readParenthesis_eq] at h
  exact (readBehindParenthesis_suffix h).trans (skipIgnored_suffix verbose cs)

theorem readParenthesis_apart (verbose : Bool) (s cs : List Char) :
    Apart s (readParenthesis verbose cs) (readParenthesis verbose (cs ++ ')' :: s)) := by
  rw [readParenthesis_eq, readParenthesis_eq]
  refine (skipIgnored_remains verbose s cs).apart (fun hz => ?_) rfl fun z o x h =>
    readBehindParenthesis_suffix h
  rw [hz]
  exact readBehindParenthesis_apart s _

end BinlogCursor.Pattern
