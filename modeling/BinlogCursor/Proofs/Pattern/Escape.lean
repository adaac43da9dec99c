/-
Escapes are read by themselves as they are read with a closing parenthesis and more
behind them (`readEscape_apart`), but for a boundary of words before an opening
brace: without anything behind it the brace is refused, and with a parenthesis
behind it it is left to be read as a count (`Dangles`).
-/
import BinlogCursor.Pattern.Reader.Escape
import BinlogCursor.Proofs.Pattern.Number

namespace BinlogCursor.Pattern

variable {verbose : Bool} {s cs x z : List Char}

/-! ## Properties -/

theorem readName_cons (verbose : Bool) (fuel : Nat) (c : Char) (cs : List Char) :
    readName verbose (fuel + 1) (c :: cs) =
      if c == '\x7d' then some ([], cs)
      else (readName verbose fuel (skipIgnored verbose cs)).map fun p => (c :: p.1, p.2) := by
  rw [readName]
  cases readName verbose fuel (skipIgnored verbose cs) <;> rfl

theorem readName_suffix {fuel : Nat} {name : List Char}
    (h : readName verbose fuel cs = some (name, x)) : x <:+ cs := by
  induction fuel generalizing name cs with
  | zero => simp [readName] at h
  | succ fuel ih =>
    cases cs with
    | nil => simp [readName] at h
    | cons c cs =>
      rw [readName_cons] at h
      split at h
      · obtain ⟨-, rfl⟩ := Prod.mk.inj (Option.some.inj h)
        exact List.suffix_cons c cs
      · obtain ⟨more, hmore⟩ := exists_of_map h
        exact ((ih hmore).trans (skipIgnored_suffix verbose cs)).trans (List.suffix_cons c cs)

theorem readName_apart {n m : Nat} (hn : cs.length < n) (hm : n + s.length < m) :
    Apart s (readName verbose n cs) (readName verbose m (cs ++ ')' :: s)) := by
  induction n generalizing m cs with
  | zero => omega
  | succ n ih =>
    obtain ⟨m, rfl⟩ : ∃ k, m = k + 1 := ⟨m - 1, by omega⟩
    cases cs with
    | nil =>
      refine .refused rfl fun name x h => ?_
      rw [List.nil_append, readName_cons, if_neg (by decide)] at h
      obtain ⟨more, hmore⟩ := exists_of_map h
      exact (readName_suffix hmore).trans (skipIgnored_suffix verbose s)
    | cons c cs =>
      have hle := (skipIgnored_suffix verbose cs).length_le
      rw [List.length_cons] at hn
      rw [List.cons_append, readName_cons, readName_cons]
      split
      · exact .pure [] (.same rfl)
      · have hrest : Apart s (readName verbose n (skipIgnored verbose cs))
            (readName verbose m (skipIgnored verbose (cs ++ ')' :: s))) := by
          refine (skipIgnored_remains verbose s cs).apart (fun hz => ?_)
            (by cases n <;> cases m <;> rfl) fun z name x h => readName_suffix h
          rw [hz]
          exact ih (by omega) (by omega)
        exact hrest.map (c :: ·)

/-- Reads the name of a property in braces, where blanks have been skipped. -/
def readPropertyName (verbose : Bool) (cs : List Char) : Option (PropertyQuery × List Char) :=
  (readName verbose (cs.length + 1) cs).bind fun (name, rest) => some (.ofName name, rest)

theorem readPropertyName_eq (verbose : Bool) (cs : List Char) : readPropertyName verbose cs =
    (readName verbose (cs.length + 1) cs).map fun p => (.ofName p.1, p.2) := by
  rw [readPropertyName]
  cases readName verbose (cs.length + 1) cs <;> rfl

theorem readPropertyName_suffix {query : PropertyQuery}
    (h : readPropertyName verbose cs = some (query, x)) : x <:+ cs := by
  rw [readPropertyName_eq] at h
  obtain ⟨name, hname⟩ := exists_of_map h
  exact readName_suffix hname

theorem readPropertyName_apart (h : Remains s cs z) :
    Apart s (readPropertyName verbose cs) (readPropertyName verbose z) := by
  refine h.apart (fun hz => ?_) rfl fun z a x hx => readPropertyName_suffix hx
  rw [readPropertyName_eq, readPropertyName_eq, hz]
  exact (readName_apart (Nat.lt_succ_self _) (fuel_lt s _)).map PropertyQuery.ofName

/-- Reads a property where blanks have been skipped. -/
def readQuery (verbose : Bool) : List Char → Option (PropertyQuery × List Char)
  | [] => none
  | '\\' :: _ => none
  | '\x7b' :: rest => readPropertyName verbose (skipIgnored verbose rest)
  | c :: rest => some (.letter c, skipIgnored verbose rest)

theorem readProperty_eq (cs : List Char) :
    readProperty verbose cs = readQuery verbose (skipIgnored verbose cs) := rfl

theorem readQuery_suffix {query : PropertyQuery}
    (h : readQuery verbose cs = some (query, x)) : x <:+ cs := by
  rw [readQuery.eq_def] at h
  split at h
  · cases h
  · cases h
  · rename_i rest
    exact ((readPropertyName_suffix h).trans (skipIgnored_suffix verbose rest)).trans
      (List.suffix_cons _ rest)
  · rename_i c rest _ _
    obtain ⟨-, rfl⟩ := Prod.mk.inj (Option.some.inj h)
    exact (skipIgnored_suffix verbose rest).trans (List.suffix_cons c rest)

theorem readQuery_apart (cs : List Char) :
    Apart s (readQuery verbose cs) (readQuery verbose (cs ++ ')' :: s)) := by
  fun_cases readQuery verbose cs with
  | case1 =>
    refine .refused rfl fun query x h => ?_
    obtain ⟨-, rfl⟩ := Prod.mk.inj (Option.some.inj h)
    exact skipIgnored_suffix verbose s
  | case2 rest => exact .none
  | case3 rest => exact readPropertyName_apart (skipIgnored_remains verbose s rest)
  | case4 c rest hslash hbrace =>
    rw [List.cons_append, readQuery]
    · exact .pure _ (skipIgnored_remains verbose s rest)
    · exact hslash
    · exact hbrace

theorem readProperty_suffix {query : PropertyQuery}
    (h : readProperty verbose cs = some (query, x)) : x <:+ cs :=
  (readQuery_suffix h).trans (skipIgnored_suffix verbose cs)

theorem readProperty_apart (verbose : Bool) (s cs : List Char) :
    Apart s (readProperty verbose cs) (readProperty verbose (cs ++ ')' :: s)) := by
  rw [readProperty_eq, readProperty_eq]
  refine (skipIgnored_remains verbose s cs).apart (fun hz => ?_) rfl fun z a x h =>
    readQuery_suffix h
  rw [hz]
  exact readQuery_apart _

/-! ## Boundaries of words -/

theorem takeBoundaryName_suffix (verbose : Bool) (fuel : Nat) (cs : List Char) :
    (takeBoundaryName verbose fuel cs).2 <:+ cs := by
  induction fuel generalizing cs with
  | zero => exact List.suffix_rfl
  | succ fuel ih =>
    cases cs with
    | nil => exact List.suffix_rfl
    | cons c cs =>
      simp only [takeBoundaryName]
      split
      · exact ((ih _).trans (skipIgnored_suffix verbose cs)).trans (List.suffix_cons c cs)
      · exact List.suffix_rfl

theorem takeBoundaryName_meets {n m : Nat} (hn : cs.length < n) (hm : n + s.length < m) :
    Meets s (some (takeBoundaryName verbose n cs))
      (some (takeBoundaryName verbose m (cs ++ ')' :: s))) := by
  induction n generalizing m cs with
  | zero => omega
  | succ n ih =>
    obtain ⟨m, rfl⟩ : ∃ k, m = k + 1 := ⟨m - 1, by omega⟩
    cases cs with
    | nil => exact .same [] [] rfl rfl
    | cons c cs =>
      have hle := (skipIgnored_suffix verbose cs).length_le
      rw [List.length_cons] at hn
      simp only [List.cons_append, takeBoundaryName]
      split
      · have hrest : Meets s (some (takeBoundaryName verbose n (skipIgnored verbose cs)))
            (some (takeBoundaryName verbose m (skipIgnored verbose (cs ++ ')' :: s)))) := by
          refine (skipIgnored_remains verbose s cs).meets_some (fun hz => ?_)
            (takeBoundaryName_suffix verbose n) (takeBoundaryName_suffix verbose m)
          rw [hz]
          exact ih (by omega) (by omega)
        refine hrest.bind_meets (f := fun p => some (c :: p.1, p.2))
          (fun name z => .same _ z rfl rfl) fun name z name' x h => ?_
        exact suffix_of_some h
      · exact .same [] (c :: cs) rfl rfl

/-- Reads the brace behind the kind of a boundary. -/
def closeBoundary (name : List Char) : List Char → Option (Assertion × List Char)
  | '\x7d' :: rest => (boundaryOfName? name).map (·, rest)
  | _ => none

theorem closeBoundary_suffix {name : List Char} {a : Assertion}
    (h : closeBoundary name cs = some (a, x)) : ∃ c, c :: x <:+ cs := by
  rw [closeBoundary.eq_def] at h
  split at h
  · obtain ⟨b, -, hb⟩ := Option.map_eq_some_iff.mp h
    obtain ⟨-, rfl⟩ := Prod.mk.inj hb
    exact ⟨_, List.suffix_rfl⟩
  · cases h

theorem closeBoundary_apart (name cs : List Char) :
    Apart s (closeBoundary name cs) (closeBoundary name (cs ++ ')' :: s)) := by
  fun_cases closeBoundary name cs with
  | case1 rest =>
    rw [List.cons_append, closeBoundary]
    cases boundaryOfName? name with
    | none => exact .none
    | some a => exact .pure a (.same rfl)
  | case2 _ hbrace =>
    rw [closeBoundary]
    · exact .none
    · exact not_begins (p := ['\x7d']) (by decide) hbrace

/-- Reads the kind of a boundary where blanks have been skipped. -/
def readKind (verbose : Bool) (cs : List Char) : Option (Assertion × List Char) :=
  (some (takeBoundaryName verbose (cs.length + 1) cs)).bind fun p => closeBoundary p.1 p.2

theorem readKind_suffix {a : Assertion} (h : readKind verbose cs = some (a, x)) : x <:+ cs := by
  obtain ⟨c, hc⟩ := closeBoundary_suffix h
  exact ((List.suffix_cons c x).trans hc).trans (takeBoundaryName_suffix verbose _ cs)

theorem readKind_apart (cs : List Char) :
    Apart s (readKind verbose cs) (readKind verbose (cs ++ ')' :: s)) :=
  (takeBoundaryName_meets (Nat.lt_succ_self _) (fuel_lt s _)).bind
    (fun name z _ => closeBoundary_apart name z) (fun _ => rfl)
    fun _ _ _ _ h => closeBoundary_suffix h

/-- Reads what stands in the braces behind the letter of a boundary, where blanks have been
skipped. What is no kind is left with its brace. -/
def readBraces (verbose : Bool) (cs : List Char) : List Char → Option (Assertion × List Char)
  | [] => none
  | c :: inner =>
    if isBoundaryChar c then readKind verbose (c :: inner) else some (.boundary, cs)

theorem readBoundary_brace (rest : List Char) : readBoundary verbose ('\x7b' :: rest) =
    readBraces verbose ('\x7b' :: rest) (skipIgnored verbose rest) := by
  rw [readBoundary]
  cases skipIgnored verbose rest with
  | nil => rfl
  | cons c inner =>
    simp only [readBraces, readKind, Option.bind_some, List.length_cons]
    congr 1
    obtain ⟨name, rest⟩ := takeBoundaryName verbose (inner.length + 2) (c :: inner)
    fun_cases closeBoundary name rest with
    | case1 rest => rfl
    | case2 =>
      split
      · simp_all
      · rfl

theorem readBoundary_other (h : ∀ rest, cs ≠ '\x7b' :: rest) :
    readBoundary verbose cs = some (.boundary, cs) := by
  rw [readBoundary]
  exact h

/-- The letter of a boundary at the end of a text, with an opening brace behind it: by itself it is
refused. With a parenthesis behind the brace it is read, and the brace is left. -/
structure Dangles (verbose : Bool) (s cs : List Char) (o o' : Option (Assertion × List Char)) :
    Prop where
  blank : ∃ inner, cs = '\x7b' :: inner ∧ skipIgnored verbose inner = []
  alone : o = none
  behind : o' = some (.boundary, cs ++ ')' :: s)

theorem readBoundary_suffix {a : Assertion} (h : readBoundary verbose cs = some (a, x)) :
    x <:+ cs := by
  cases cs with
  | nil =>
    exact suffix_of_some h
  | cons c rest =>
    by_cases hc : c = '\x7b'
    · subst hc
      have hrest := (skipIgnored_suffix verbose rest).trans (List.suffix_cons '\x7b' rest)
      rw [readBoundary_brace, readBraces.eq_def] at h
      split at h
      · cases h
      · rename_i d inner hd
        split at h
        · exact (hd ▸ readKind_suffix h).trans hrest
        · exact suffix_of_some h
    · rw [readBoundary_other (by simp [hc])] at h
      exact suffix_of_some h

theorem readBoundary_apart (verbose : Bool) (s cs : List Char) :
    Apart s (readBoundary verbose cs) (readBoundary verbose (cs ++ ')' :: s)) ∨
      Dangles verbose s cs (readBoundary verbose cs) (readBoundary verbose (cs ++ ')' :: s)) := by
  cases cs with
  | nil => exact Or.inl (.pure _ (.same rfl))
  | cons c rest =>
    by_cases hc : c = '\x7b'
    · subst hc
      rw [List.cons_append, readBoundary_brace, readBoundary_brace]
      cases skipIgnored_remains verbose s rest with
      | same hz =>
        cases hskip : skipIgnored verbose rest with
        | nil =>
          rw [hz, hskip]
          exact Or.inr ⟨⟨rest, rfl, hskip⟩, rfl, rfl⟩
        | cons d inner =>
          rw [hz, hskip, List.cons_append]
          simp only [readBraces]
          split
          · exact Or.inl (readKind_apart (d :: inner))
          · exact Or.inl (.pure _ (.same rfl))
      | comment hz hz' =>
        rw [hz, hz']
        cases hskip : skipComments true s with
        | nil => exact Or.inl .none
        | cons d inner =>
          simp only [readBraces]
          split
          · refine Or.inl (.refused rfl fun a x h => ?_)
            exact (readKind_suffix h).trans (hskip ▸ skipComments_suffix true s)
          · exact Or.inr ⟨⟨rest, rfl, hz⟩, rfl, rfl⟩
    · rw [readBoundary_other (by simp [hc]), readBoundary_other (by simp [hc])]
      exact Or.inl (.pure _ (.same rfl))

/-! ## Escapes -/

theorem readEscape_suffix {c : Char} {e : Escape}
    (h : readEscape verbose (c :: cs) = some (e, x)) : x <:+ cs := by
  rw [readEscape.eq_def] at h
  dsimp only at h
  split at h
  -- all but codes, properties and boundaries are a single character
  any_goals exact suffix_of_some h
  · obtain ⟨l, hl⟩ := exists_of_map h
    exact readHex_suffix hl
  · obtain ⟨l, hl⟩ := exists_of_map h
    exact readHex_suffix hl
  · obtain ⟨l, hl⟩ := exists_of_map h
    exact readHex_suffix hl
  · obtain ⟨q, hq⟩ := exists_of_map (f := fun q => Escape.property q false) h
    exact readProperty_suffix hq
  · obtain ⟨q, hq⟩ := exists_of_map (f := fun q => Escape.property q true) h
    exact readProperty_suffix hq
  · obtain ⟨a, ha⟩ := exists_of_map h
    exact readBoundary_suffix ha
  · split at h
    · exact suffix_of_some h
    · cases h

theorem readEscape_apart (verbose : Bool) (s cs : List Char) :
    Apart s (readEscape verbose cs) (readEscape verbose (cs ++ ')' :: s)) ∨
      ∃ rest, cs = 'b' :: rest ∧
        Dangles verbose s rest (readBoundary verbose rest) (readBoundary verbose (rest ++ ')' :: s))
    := by
  cases cs with
  | nil => exact Or.inl (.refused rfl fun e x h => readEscape_suffix h)
  | cons c rest =>
    rw [List.cons_append, readEscape.eq_def, readEscape.eq_def]
    dsimp only
    split
    any_goals exact Or.inl (.pure _ (.same rfl))
    · exact Or.inl ((readHex_apart verbose 2 s rest).map Escape.literal)
    · exact Or.inl ((readHex_apart verbose 4 s rest).map Escape.literal)
    · exact Or.inl ((readHex_apart verbose 8 s rest).map Escape.literal)
    · exact Or.inl ((readProperty_apart verbose s rest).map (Escape.property · false))
    · exact Or.inl ((readProperty_apart verbose s rest).map (Escape.property · true))
    · rcases readBoundary_apart verbose s rest with h | h
      · exact Or.inl (h.map Escape.assertion)
      · exact Or.inr ⟨rest, rfl, h⟩
    · split
      · exact Or.inl (.pure _ (.same rfl))
      · exact Or.inl .none

end BinlogCursor.Pattern
