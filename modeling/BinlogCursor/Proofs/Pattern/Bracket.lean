/-
Classes in brackets are read by themselves as they are read with a closing
parenthesis and more behind them (`readBracket_apart`): a class ends with its
bracket, and one that is not closed is refused at the end of the text.
-/
import BinlogCursor.Pattern.Reader.Bracket
import BinlogCursor.Proofs.Pattern.Escape

namespace BinlogCursor.Pattern

open Text (trimStart)

variable {verbose : Bool} {s cs x z : List Char}

/-! ## Named classes -/

/-- No class has a parenthesis in its name. -/
theorem asciiOfName?_of_mem {name : List Char} (h : ')' ∈ name) : asciiOfName? name = none := by
  have hne : ∀ l : List Char, ')' ∉ l → String.ofList name ≠ String.ofList l := by
    intro l hl heq
    exact hl (String.ofList_injective heq ▸ h)
  rw [asciiOfName?]
  split
  case h_15 => rfl
  all_goals
    rename_i heq
    exact absurd heq (hne _ (by decide))

theorem mem_of_cutFirst {sep : Char} (hsep : sep ≠ ')') {before : List Char}
    (hcs : Text.cutFirst sep cs = none)
    (h : Text.cutFirst sep (cs ++ ')' :: s) = some (before, x)) : ')' ∈ before := by
  rw [Text.cutFirst_eq_none_iff] at hcs
  obtain ⟨hcut, -⟩ := Text.cutFirst_eq_some_iff.mp h
  rcases List.append_eq_append_iff.mp hcut with ⟨more, rfl, heq⟩ | ⟨more, rfl, heq⟩
  · cases more with
    | nil => exact absurd (List.cons.inj heq).1.symm hsep
    | cons c more =>
      obtain ⟨rfl, -⟩ := List.cons.inj heq
      simp
  · cases more with
    | nil => exact absurd (List.cons.inj heq).1 hsep
    | cons c more =>
      obtain ⟨rfl, -⟩ := List.cons.inj heq
      exact absurd (by simp) hcs

/-- Reads the bracket behind the name of a class. -/
def closeAscii (negated : Bool) (name : List Char) : List Char → Option (ClassExpr × List Char)
  | ']' :: rest => (asciiOfName? name).map fun c => (.ascii c negated, rest)
  | _ => none

theorem closeAscii_append (negated : Bool) (name s cs : List Char) :
    closeAscii negated name (cs ++ ')' :: s) =
      (closeAscii negated name cs).map fun p => (p.1, p.2 ++ ')' :: s) := by
  fun_cases closeAscii negated name cs with
  | case1 rest =>
    rw [List.cons_append, closeAscii]
    cases asciiOfName? name <;> rfl
  | case2 _ hbracket =>
    rw [closeAscii]
    · rfl
    · exact not_begins (p := [']']) (by decide) hbracket

theorem closeAscii_suffix {negated : Bool} {name : List Char} {e : ClassExpr}
    (h : closeAscii negated name cs = some (e, x)) : x <:+ cs := by
  rw [closeAscii.eq_def] at h
  split at h
  · obtain ⟨c, -, hc⟩ := Option.map_eq_some_iff.mp h
    obtain ⟨-, rfl⟩ := Prod.mk.inj hc
    exact List.suffix_cons _ _
  · cases h

/-- Reads the name of a class. -/
def readAsciiName (negated : Bool) (cs : List Char) : Option (ClassExpr × List Char) :=
  (Text.cutFirst ':' cs).bind fun p => closeAscii negated p.1 p.2

theorem readAsciiName_append (negated : Bool) (s cs : List Char) :
    readAsciiName negated (cs ++ ')' :: s) =
      (readAsciiName negated cs).map fun p => (p.1, p.2 ++ ')' :: s) := by
  rw [readAsciiName, readAsciiName]
  cases hcut : Text.cutFirst ':' cs with
  | none =>
    cases hcut' : Text.cutFirst ':' (cs ++ ')' :: s) with
    | none => rfl
    | some p =>
      have hname := asciiOfName?_of_mem (mem_of_cutFirst (by decide) hcut hcut')
      rw [Option.bind_some, closeAscii.eq_def]
      split
      · rw [hname]
        rfl
      · rfl
  | some p =>
    obtain ⟨name, rest⟩ := p
    obtain ⟨rfl, hname⟩ := Text.cutFirst_eq_some_iff.mp hcut
    have hcut' : Text.cutFirst ':' ((name ++ ':' :: rest) ++ ')' :: s) =
        some (name, rest ++ ')' :: s) :=
      Text.cutFirst_eq_some_iff.mpr ⟨by simp, hname⟩
    rw [hcut']
    exact closeAscii_append negated name s rest

theorem readAsciiName_suffix {negated : Bool} {e : ClassExpr}
    (h : readAsciiName negated cs = some (e, x)) : x <:+ cs := by
  obtain ⟨⟨name, rest⟩, hcut, h⟩ := Option.bind_eq_some_iff.mp h
  exact (closeAscii_suffix h).trans (cutFirst_suffix hcut)

/-- Reads what is behind the colon before the name of a class. -/
def readBehindColon : List Char → Option (ClassExpr × List Char)
  | '^' :: rest => readAsciiName true rest
  | rest => readAsciiName false rest

theorem readBehindColon_append (s cs : List Char) : readBehindColon (cs ++ ')' :: s) =
    (readBehindColon cs).map fun p => (p.1, p.2 ++ ')' :: s) := by
  fun_cases readBehindColon cs with
  | case1 rest => exact readAsciiName_append true s rest
  | case2 _ hcaret =>
    rw [readBehindColon]
    · exact readAsciiName_append false s cs
    · exact not_begins (p := ['^']) (by decide) hcaret

theorem readAscii?_colon (rest : List Char) : readAscii? (':' :: rest) = readBehindColon rest := by
  cases rest with
  | nil => rfl
  | cons c rest =>
    by_cases hc : c = '^'
    · subst hc
      rfl
    · have hbehind : readBehindColon (c :: rest) = readAsciiName false (c :: rest) := by
        rw [readBehindColon]
        simpa using hc
      rw [hbehind, readAscii?]
      simp [hc]
      rfl

theorem readAscii?_other (h : ∀ rest, cs ≠ ':' :: rest) : readAscii? cs = none := by
  rw [readAscii?]
  · rfl
  · exact h

theorem readAscii?_append (s cs : List Char) :
    readAscii? (cs ++ ')' :: s) = (readAscii? cs).map fun p => (p.1, p.2 ++ ')' :: s) := by
  by_cases h : ∃ rest, cs = ':' :: rest
  · obtain ⟨rest, rfl⟩ := h
    rw [List.cons_append, readAscii?_colon, readAscii?_colon]
    exact readBehindColon_append s rest
  · have hcs : ∀ rest, cs ≠ ':' :: rest := fun rest heq => h ⟨rest, heq⟩
    rw [readAscii?_other hcs, readAscii?_other (not_begins (p := [':']) (by decide) hcs)]
    rfl

theorem readAscii?_suffix {e : ClassExpr} (h : readAscii? cs = some (e, x)) : x <:+ cs := by
  by_cases hcs : ∃ rest, cs = ':' :: rest
  · obtain ⟨rest, rfl⟩ := hcs
    rw [readAscii?_colon, readBehindColon.eq_def] at h
    split at h
    · exact ((readAsciiName_suffix h).trans (List.suffix_cons _ _)).trans (List.suffix_cons _ _)
    · exact (readAsciiName_suffix h).trans (List.suffix_cons _ _)
  · rw [readAscii?_other fun rest heq => hcs ⟨rest, heq⟩] at h
    cases h

/-! ## Items and ranges -/

theorem readClassItem_suffix {e : Escape} (h : readClassItem verbose cs = some (e, x)) :
    ∃ c, c :: x <:+ cs := by
  rw [readClassItem.eq_def] at h
  split at h
  · cases h
  · rename_i rest
    cases rest with
    | nil => cases h
    | cons c rest =>
      exact exists_cons_suffix ((readEscape_suffix h).trans (List.suffix_cons c rest)) _
  · obtain ⟨-, rfl⟩ := Prod.mk.inj (Option.some.inj h)
    exact ⟨_, List.suffix_rfl⟩

/-- An item is read as it is with more behind it, or that is a boundary, which no class has. -/
theorem readClassItem_apart (verbose : Bool) (s cs : List Char) :
    Apart s (readClassItem verbose cs) (readClassItem verbose (cs ++ ')' :: s)) ∨
      readClassItem verbose cs = none ∧
        ∃ a z, readClassItem verbose (cs ++ ')' :: s) = some (.assertion a, z) := by
  fun_cases readClassItem verbose cs with
  | case1 =>
    refine Or.inl (.refused rfl fun e x h => ?_)
    obtain ⟨c, hc⟩ := readClassItem_suffix h
    exact suffix_of_cons_suffix hc
  | case2 rest =>
    rcases readEscape_apart verbose s rest with h | ⟨rest, rfl, hdangles⟩
    · exact Or.inl h
    · refine Or.inr ⟨?_, .boundary, rest ++ ')' :: s, ?_⟩
      · show (readBoundary verbose rest).map _ = none
        rw [hdangles.alone]
        rfl
      · show (readBoundary verbose (rest ++ ')' :: s)).map _ = _
        rw [hdangles.behind]
        rfl
  | case3 c rest hslash =>
    rw [List.cons_append, readClassItem]
    · exact Or.inl (.pure _ (.same rfl))
    · exact hslash

theorem peek_append (verbose : Bool) (s cs : List Char) :
    peek verbose (cs ++ ')' :: s) = some ((peek verbose cs).getD ')') := by
  have hhead : ∀ z : List Char, (z ++ ')' :: s).head? = some (z.head?.getD ')') := by
    intro z
    cases z <;> rfl
  rw [peek, peek]
  split
  · rw [trimStart_append]
    cases hz : trimStart cs with
    | nil => rfl
    | cons c z =>
      by_cases hc : c = '#'
      · subst hc
        show (trimStart (z ++ ')' :: s)).head? = some ((trimStart z).head?.getD ')')
        rw [trimStart_append, hhead]
      · simp [hc]
  · exact hhead cs

/-- Puts two literals together as a range. -/
def rangeOf (first last : Escape) : Option ClassExpr := do
  let first ← first.toLiteral?
  let last ← last.toLiteral?
  if first.char ≤ last.char then pure (.range first last) else none

/-- Reads the last item of a range. -/
def readRangeEnd (verbose : Bool) (first : Escape) (cs : List Char) :
    Option (ClassExpr × List Char) :=
  (readClassItem verbose cs).bind fun p => (rangeOf first p.1).map (·, p.2)

/-- Reads what is behind the first item of a class, where blanks have been skipped. -/
def readBehindItem (verbose : Bool) (first : Escape) : List Char → Option (ClassExpr × List Char)
  | [] => none
  | '-' :: rest =>
    if peek verbose rest == some ']' || peek verbose rest == some '-' then
      first.toClass?.map (·, '-' :: rest)
    else readRangeEnd verbose first (skipIgnored verbose rest)
  | rest => first.toClass?.map (·, rest)

theorem readClassRange_eq (cs : List Char) : readClassRange verbose cs =
    (readClassItem verbose cs).bind fun p =>
      readBehindItem verbose p.1 (skipIgnored verbose p.2) := by
  rw [readClassRange]
  show (readClassItem verbose cs).bind _ = _
  congr 1
  funext ⟨first, rest⟩
  dsimp only
  generalize skipIgnored verbose rest = rest
  fun_cases readBehindItem verbose first rest with
  | case1 => rfl
  | case2 rest h =>
    simp only [h]
    cases first.toClass? <;> rfl
  | case3 rest h =>
    simp only [h, readRangeEnd]
    show (readClassItem verbose (skipIgnored verbose rest)).bind _ = _
    congr 1
    funext ⟨last, rest⟩
    rw [rangeOf]
    cases first.toLiteral? with
    | none => rfl
    | some first =>
      cases last.toLiteral? with
      | none => rfl
      | some last =>
        simp only [Option.bind_eq_bind, Option.bind_some]
        split <;> rfl
  | case4 =>
    split
    · simp_all
    · simp_all
    · cases first.toClass? <;> rfl

theorem readRangeEnd_suffix {first : Escape} {e : ClassExpr}
    (h : readRangeEnd verbose first cs = some (e, x)) : x <:+ cs := by
  obtain ⟨last, hlast⟩ := exists_of_filterMap h
  obtain ⟨c, hc⟩ := readClassItem_suffix hlast
  exact (List.suffix_cons c x).trans hc

theorem readBehindItem_suffix {first : Escape} {e : ClassExpr}
    (h : readBehindItem verbose first cs = some (e, x)) : x <:+ cs := by
  have hmap : ∀ {o : Option ClassExpr} {z : List Char}, o.map (·, z) = some (e, x) → z = x := by
    intro o z ho
    obtain ⟨_, -, ho⟩ := Option.map_eq_some_iff.mp ho
    exact (Prod.mk.inj ho).2
  rw [readBehindItem.eq_def] at h
  split at h
  · cases h
  · rename_i rest
    split at h
    · exact hmap h ▸ List.suffix_rfl
    · exact ((readRangeEnd_suffix h).trans (skipIgnored_suffix verbose rest)).trans
        (List.suffix_cons _ rest)
  · exact hmap h ▸ List.suffix_rfl

/-- A boundary is no item of a class. -/
theorem readBehindItem_assertion (a : Assertion) (cs : List Char) :
    readBehindItem verbose (.assertion a) cs = none := by
  rw [readBehindItem.eq_def]
  split
  · rfl
  · split
    · rfl
    · rename_i rest _
      rw [readRangeEnd]
      cases readClassItem verbose (skipIgnored verbose rest) <;> rfl
  · rfl

/-- A hyphen makes a range or stands for itself whatever is behind the text. -/
theorem peek_append_beq (rest : List Char) :
    (peek verbose (rest ++ ')' :: s) == some ']' || peek verbose (rest ++ ')' :: s) == some '-') =
      (peek verbose rest == some ']' || peek verbose rest == some '-') := by
  rw [peek_append]
  cases peek verbose rest with
  | none => rfl
  | some c => rfl

theorem readRangeEnd_meets (first : Escape) (cs : List Char) :
    Meets s (readRangeEnd verbose first cs) (readRangeEnd verbose first (cs ++ ')' :: s)) := by
  rw [readRangeEnd, readRangeEnd]
  rcases readClassItem_apart verbose s cs with h | ⟨h, a, z, h'⟩
  · exact (h.filterMap (rangeOf first)).meets
  · have hrange : rangeOf first (.assertion a) = none := by
      rw [rangeOf]
      cases first.toLiteral? <;> rfl
    rw [h, h', Option.bind_none, Option.bind_some, hrange]
    exact Apart.none.meets

theorem readBehindItem_meets (first : Escape) (cs : List Char) :
    Meets s (readBehindItem verbose first cs) (readBehindItem verbose first (cs ++ ')' :: s)) := by
  have hmap : ∀ (o : Option ClassExpr) (z : List Char),
      Meets s (o.map (·, z)) (o.map (·, z ++ ')' :: s)) := by
    intro o z
    cases o with
    | none => exact Apart.none.meets
    | some e => exact .same e z rfl rfl
  fun_cases readBehindItem verbose first cs with
  | case1 => exact .atEnd nofun fun e x h => readBehindItem_suffix h
  | case2 rest h =>
    rw [List.cons_append, readBehindItem, peek_append_beq, if_pos h]
    exact hmap _ _
  | case3 rest h =>
    rw [List.cons_append, readBehindItem, peek_append_beq, if_neg h]
    refine (skipIgnored_remains verbose s rest).meets (fun hz => ?_)
      (fun z e x h => readRangeEnd_suffix h) fun z e x h => readRangeEnd_suffix h
    rw [hz]
    exact readRangeEnd_meets first _
  | case4 _ hnil hhyphen =>
    rw [readBehindItem]
    · exact hmap _ _
    · simp
    · exact not_begins (p := ['-']) (by decide) hhyphen

theorem readClassRange_suffix {e : ClassExpr} (h : readClassRange verbose cs = some (e, x)) :
    ∃ c, c :: x <:+ cs := by
  rw [readClassRange_eq] at h
  obtain ⟨⟨first, z⟩, hfirst, h⟩ := Option.bind_eq_some_iff.mp h
  obtain ⟨c, hc⟩ := readClassItem_suffix hfirst
  obtain ⟨d, hd⟩ :=
    exists_cons_suffix ((readBehindItem_suffix h).trans (skipIgnored_suffix verbose z)) c
  exact ⟨d, hd.trans hc⟩

theorem readClassRange_meets (verbose : Bool) (s cs : List Char) :
    Meets s (readClassRange verbose cs) (readClassRange verbose (cs ++ ')' :: s)) := by
  rw [readClassRange_eq, readClassRange_eq]
  rcases readClassItem_apart verbose s cs with h | ⟨h, a, z, h'⟩
  · refine h.meets.bind_meets (fun first z => ?_) fun first z e x h => ?_
    · refine (skipIgnored_remains verbose s z).meets (fun hz => ?_)
        (fun z e x h => readBehindItem_suffix h) fun z e x h => readBehindItem_suffix h
      dsimp only at hz ⊢
      rw [hz]
      exact readBehindItem_meets first _
    · exact (readBehindItem_suffix h).trans (skipIgnored_suffix verbose z)
  · rw [h, h', Option.bind_none, Option.bind_some, readBehindItem_assertion]
    exact Apart.none.meets

/-! ## The beginning of a class -/

theorem takeHyphens_suffix (verbose : Bool) (fuel : Nat) (cs : List Char) :
    (takeHyphens verbose fuel cs).2 <:+ cs := by
  induction fuel generalizing cs with
  | zero => exact List.suffix_rfl
  | succ fuel ih =>
    rw [takeHyphens.eq_def]
    dsimp only
    split
    · rename_i rest
      exact ((ih _).trans (skipIgnored_suffix verbose rest)).trans (List.suffix_cons _ rest)
    · exact List.suffix_rfl

theorem takeHyphens_meets {n m : Nat} (hn : cs.length < n) (hm : n + s.length < m) :
    Meets s (some (takeHyphens verbose n cs)) (some (takeHyphens verbose m (cs ++ ')' :: s))) := by
  induction n generalizing m cs with
  | zero => omega
  | succ n ih =>
    obtain ⟨m, rfl⟩ : ∃ k, m = k + 1 := ⟨m - 1, by omega⟩
    by_cases hcs : ∃ rest, cs = '-' :: rest
    · obtain ⟨rest, rfl⟩ := hcs
      have hle := (skipIgnored_suffix verbose rest).length_le
      rw [List.length_cons] at hn
      have hrest : Meets s (some (takeHyphens verbose n (skipIgnored verbose rest)))
          (some (takeHyphens verbose m (skipIgnored verbose (rest ++ ')' :: s)))) := by
        refine (skipIgnored_remains verbose s rest).meets_some (fun hz => ?_)
          (takeHyphens_suffix verbose n) (takeHyphens_suffix verbose m)
        rw [hz]
        exact ih (by omega) (by omega)
      refine hrest.bind_meets (f := fun p => some (.literal ⟨'-', false⟩ :: p.1, p.2))
        (fun items z => .same _ z rfl rfl) fun items z items' x h => ?_
      exact suffix_of_some h
    · have hhyphen : ∀ rest, cs ≠ '-' :: rest := fun rest heq => hcs ⟨rest, heq⟩
      rw [takeHyphens, takeHyphens]
      · exact .same [] cs rfl rfl
      · exact not_begins (p := ['-']) (by decide) hhyphen
      · exact hhyphen

/-- What has been read of the beginning of a class: whether there is a caret, and its items. -/
def ClassOpening.read (o : ClassOpening) : (Bool × List ClassExpr) × List Char :=
  ((o.negated, o.items), o.rest)

/-- Reads what is behind the hyphens at the beginning of a class. -/
def readFirstItems (verbose negated : Bool) (items : List ClassExpr) :
    List Char → Option ((Bool × List ClassExpr) × List Char)
  | [] => none
  | ']' :: rest =>
    if items.isEmpty then
      match skipIgnored verbose rest with
      | [] => none
      | rest => some ((negated, [.literal ⟨']', false⟩]), rest)
    else some ((negated, items.reverse), ']' :: rest)
  | rest => some ((negated, items.reverse), rest)

/-- Reads the hyphens at the beginning of a class and what is behind them. -/
def readHyphens (verbose negated : Bool) (cs : List Char) :
    Option ((Bool × List ClassExpr) × List Char) :=
  (some (takeHyphens verbose (cs.length + 1) cs)).bind fun p =>
    readFirstItems verbose negated p.1 p.2

/-- Reads the beginning of a class where blanks have been skipped. -/
def readCaret (verbose : Bool) : List Char → Option ((Bool × List ClassExpr) × List Char)
  | '^' :: rest => readHyphens verbose true (skipIgnored verbose rest)
  | rest => readHyphens verbose false rest

theorem readHyphens_eq (negated : Bool) (cs : List Char) : readHyphens verbose negated cs =
    Option.map ClassOpening.read (match takeHyphens verbose (cs.length + 1) cs with
      | (_, []) => none
      | ([], ']' :: rest) =>
        match skipIgnored verbose rest with
        | [] => none
        | rest => some ⟨negated, [.literal ⟨']', false⟩], rest⟩
      | (items, rest) => some ⟨negated, items.reverse, rest⟩) := by
  rw [readHyphens, Option.bind_some]
  obtain ⟨items, rest⟩ := takeHyphens verbose (cs.length + 1) cs
  dsimp only
  fun_cases readFirstItems verbose negated items rest with
  | case1 => rfl
  | case2 rest h hskip =>
    obtain rfl := List.isEmpty_iff.mp h
    simp [hskip]
  | case3 rest h hskip =>
    obtain rfl := List.isEmpty_iff.mp h
    split
    · simp_all
    · split <;> simp_all [ClassOpening.read]
    · rename_i hbracket heq
      obtain ⟨rfl, rfl⟩ := Prod.mk.inj heq
      exact absurd rfl (hbracket _ rfl)
  | case4 rest h =>
    cases items with
    | nil => exact absurd rfl h
    | cons item items => rfl
  | case5 _ hnil hbracket =>
    split
    · simp_all
    · simp_all
    · rename_i heq
      obtain ⟨rfl, rfl⟩ := Prod.mk.inj heq
      rfl

theorem readOpening_eq (cs : List Char) : (readOpening verbose cs).map ClassOpening.read =
    readCaret verbose (skipIgnored verbose cs) := by
  rw [readOpening]
  generalize skipIgnored verbose cs = cs
  cases cs with
  | nil => exact (readHyphens_eq false []).symm
  | cons c rest =>
    by_cases hc : c = '^'
    · subst hc
      exact (readHyphens_eq true _).symm
    · have hcaret : readCaret verbose (c :: rest) = readHyphens verbose false (c :: rest) := by
        rw [readCaret]
        simpa using hc
      rw [hcaret, readHyphens_eq]
      congr 1
      split
      rename_i heq
      split at heq
      · rename_i hcs
        exact absurd (List.cons.inj hcs).1 hc
      · obtain ⟨rfl, rfl⟩ := Prod.mk.inj heq
        rfl

theorem readFirstItems_suffix {negated : Bool} {items : List ClassExpr}
    {o : Bool × List ClassExpr} (h : readFirstItems verbose negated items cs = some (o, x)) :
    x <:+ cs := by
  rw [readFirstItems.eq_def] at h
  split at h
  · cases h
  · rename_i rest
    split at h
    · split at h
      · cases h
      · obtain ⟨-, rfl⟩ := Prod.mk.inj (Option.some.inj h)
        exact (skipIgnored_suffix verbose rest).trans (List.suffix_cons _ rest)
    · exact suffix_of_some h
  · exact suffix_of_some h

/-- What stands for itself at the beginning of a class is read at the end of a text only if more
is behind it. -/
theorem readFirstItems_meets (negated : Bool) (items : List ClassExpr) (cs : List Char) :
    Meets s (readFirstItems verbose negated items cs)
      (readFirstItems verbose negated items (cs ++ ')' :: s)) := by
  fun_cases readFirstItems verbose negated items cs with
  | case1 => exact .atEnd nofun fun o x h => readFirstItems_suffix h
  | case2 rest h hskip =>
    refine .atEnd nofun fun o x hx => ?_
    rw [List.cons_append, readFirstItems, if_pos h] at hx
    split at hx
    · cases hx
    · obtain ⟨-, rfl⟩ := Prod.mk.inj (Option.some.inj hx)
      exact (hskip ▸ skipIgnored_remains verbose s rest).suffix
  | case3 rest h hskip =>
    rw [List.cons_append, readFirstItems, if_pos h]
    cases skipIgnored_remains verbose s rest with
    | same hz =>
      rw [hz]
      split
      · rename_i heq
        exact absurd heq (by simp)
      · exact .same _ _ rfl rfl
    | comment hz _ => exact absurd hz hskip
  | case4 rest h =>
    rw [List.cons_append, readFirstItems, if_neg h]
    exact .same _ (']' :: rest) rfl rfl
  | case5 _ hnil hbracket =>
    rw [readFirstItems]
    · exact .same _ cs rfl rfl
    · simp
    · exact not_begins (p := [']']) (by decide) hbracket

theorem readHyphens_suffix {negated : Bool} {o : Bool × List ClassExpr}
    (h : readHyphens verbose negated cs = some (o, x)) : x <:+ cs :=
  (readFirstItems_suffix h).trans (takeHyphens_suffix verbose _ cs)

theorem readHyphens_meets (negated : Bool) (h : Remains s cs z) :
    Meets s (readHyphens verbose negated cs) (readHyphens verbose negated z) := by
  refine h.meets (fun hz => ?_) (fun z o x h => readHyphens_suffix h)
    fun z o x h => readHyphens_suffix h
  subst hz
  exact (takeHyphens_meets (Nat.lt_succ_self _) (fuel_lt s _)).bind_meets
    (fun items z => readFirstItems_meets negated items z)
    fun items z o x h => readFirstItems_suffix h

theorem readCaret_suffix {o : Bool × List ClassExpr} (h : readCaret verbose cs = some (o, x)) :
    x <:+ cs := by
  rw [readCaret.eq_def] at h
  split at h
  · rename_i rest
    exact ((readHyphens_suffix h).trans (skipIgnored_suffix verbose rest)).trans
      (List.suffix_cons _ rest)
  · exact readHyphens_suffix h

theorem readCaret_meets (cs : List Char) :
    Meets s (readCaret verbose cs) (readCaret verbose (cs ++ ')' :: s)) := by
  fun_cases readCaret verbose cs with
  | case1 rest => exact readHyphens_meets true (skipIgnored_remains verbose s rest)
  | case2 _ hcaret =>
    rw [readCaret]
    · exact readHyphens_meets false (.same rfl)
    · exact not_begins (p := ['^']) (by decide) hcaret

theorem readOpening_suffix {o : ClassOpening} (h : readOpening verbose cs = some o) :
    o.rest <:+ cs := by
  have hcaret : readCaret verbose (skipIgnored verbose cs) = some o.read := by
    rw [← readOpening_eq, h]
    rfl
  exact (readCaret_suffix hcaret).trans (skipIgnored_suffix verbose cs)

theorem readOpening_meets (verbose : Bool) (s cs : List Char) :
    Meets s ((readOpening verbose cs).map ClassOpening.read)
      ((readOpening verbose (cs ++ ')' :: s)).map ClassOpening.read) := by
  rw [readOpening_eq, readOpening_eq]
  refine (skipIgnored_remains verbose s cs).meets (fun hz => ?_)
    (fun z o x h => readCaret_suffix h) fun z o x h => readCaret_suffix h
  rw [hz]
  exact readCaret_meets _

/-! ## Classes -/

/-- Reads a class within a class, and what is behind it. -/
def readInner (verbose : Bool) (fuel : Nat) (pending : Pending) (items : List ClassExpr)
    (cs : List Char) : Option (ClassExpr × List Char) :=
  ((readOpening verbose cs).map ClassOpening.read).bind fun o =>
    (readClass verbose fuel none o.1.2 o.2).bind fun p =>
      readClass verbose fuel pending (.bracket o.1.1 p.1 :: items) p.2

/-- Reads a member of a class where blanks have been skipped, and what is behind it. -/
def readMember (verbose : Bool) (fuel : Nat) (pending : Pending) (items : List ClassExpr) :
    List Char → Option (ClassExpr × List Char)
  | [] => none
  | '[' :: rest =>
    match readAscii? rest with
    | some (item, rest) => readClass verbose fuel pending (item :: items) rest
    | none => readInner verbose fuel pending items rest
  | ']' :: rest => some (pending.close items, rest)
  | '&' :: '&' :: rest => readClass verbose fuel (some (.intersection, pending.close items)) [] rest
  | '-' :: '-' :: rest => readClass verbose fuel (some (.difference, pending.close items)) [] rest
  | '~' :: '~' :: rest =>
    readClass verbose fuel (some (.symmetricDifference, pending.close items)) [] rest
  | cs => (readClassRange verbose cs).bind fun p =>
    readClass verbose fuel pending (p.1 :: items) p.2

theorem readClass_succ (fuel : Nat) (pending : Pending) (items : List ClassExpr)
    (cs : List Char) : readClass verbose (fuel + 1) pending items cs =
      readMember verbose fuel pending items (skipIgnored verbose cs) := by
  rw [readClass]
  generalize skipIgnored verbose cs = cs
  fun_cases readMember verbose fuel pending items cs with
  | case1 => rfl
  | case2 rest item rest' h => simp [h]
  | case3 rest h =>
    simp only [h, readInner, Option.bind_map]
    rfl
  | case4 rest => rfl
  | case5 rest => rfl
  | case6 rest => rfl
  | case7 rest => rfl
  | case8 => split <;> simp_all

theorem readClass_nil (fuel : Nat) (pending : Pending) (items : List ClassExpr) :
    readClass verbose fuel pending items [] = none := by
  cases fuel with
  | zero => rfl
  | succ fuel => rw [readClass_succ, skipIgnored_nil, readMember]

theorem exists_of_read {o : Option ClassOpening} {negated : Bool} {items : List ClassExpr}
    (h : o.map ClassOpening.read = some ((negated, items), x)) :
    ∃ opening, o = some opening ∧ opening.rest = x := by
  obtain ⟨opening, ho, hread⟩ := Option.map_eq_some_iff.mp h
  exact ⟨opening, ho, (Prod.mk.inj hread).2⟩

theorem readMember_suffix {fuel : Nat} {pending : Pending} {items : List ClassExpr} {e : ClassExpr}
    (ih : ∀ {pending items z e x}, readClass verbose fuel pending items z = some (e, x) →
      ∃ c, c :: x <:+ z)
    (h : readMember verbose fuel pending items cs = some (e, x)) : ∃ c, c :: x <:+ cs := by
  have hbehind : ∀ {z pending items}, readClass verbose fuel pending items z = some (e, x) →
      z <:+ cs → ∃ c, c :: x <:+ cs := by
    intro z pending items hz hsuffix
    obtain ⟨c, hc⟩ := ih hz
    exact ⟨c, hc.trans hsuffix⟩
  rw [readMember.eq_def] at h
  split at h
  · cases h
  · rename_i rest
    have hrest := List.suffix_cons '[' rest
    split at h
    · rename_i item z hascii
      exact hbehind h ((readAscii?_suffix hascii).trans hrest)
    · obtain ⟨⟨⟨negated, own⟩, y⟩, ho, h⟩ := Option.bind_eq_some_iff.mp h
      obtain ⟨⟨body, z⟩, hbody, h⟩ := Option.bind_eq_some_iff.mp h
      obtain ⟨opening, hopening, rfl⟩ := exists_of_read ho
      obtain ⟨c, hc⟩ := ih hbody
      have hz := (List.suffix_cons c z).trans (hc.trans (readOpening_suffix hopening))
      exact hbehind h (hz.trans hrest)
  · obtain ⟨-, rfl⟩ := Prod.mk.inj (Option.some.inj h)
    exact ⟨_, List.suffix_rfl⟩
  · exact hbehind h ((List.suffix_cons _ _).trans (List.suffix_cons _ _))
  · exact hbehind h ((List.suffix_cons _ _).trans (List.suffix_cons _ _))
  · exact hbehind h ((List.suffix_cons _ _).trans (List.suffix_cons _ _))
  · obtain ⟨⟨item, z⟩, hitem, h⟩ := Option.bind_eq_some_iff.mp h
    obtain ⟨c, hc⟩ := readClassRange_suffix hitem
    exact hbehind h ((List.suffix_cons c z).trans hc)

/-- A class takes at least the bracket at its end. -/
theorem readClass_suffix {fuel : Nat} {pending : Pending} {items : List ClassExpr} {e : ClassExpr}
    (h : readClass verbose fuel pending items cs = some (e, x)) : ∃ c, c :: x <:+ cs := by
  induction fuel generalizing pending items cs e x with
  | zero => cases h
  | succ fuel ih =>
    rw [readClass_succ] at h
    obtain ⟨c, hc⟩ := readMember_suffix ih h
    exact ⟨c, hc.trans (skipIgnored_suffix verbose cs)⟩

theorem readMember_apart {n m : Nat} (pending : Pending) (items : List ClassExpr)
    (hn : cs.length ≤ n)
    (ih : ∀ pending items z, z.length < n → Apart s (readClass verbose n pending items z)
      (readClass verbose m pending items (z ++ ')' :: s))) :
    Apart s (readMember verbose n pending items cs)
      (readMember verbose m pending items (cs ++ ')' :: s)) := by
  fun_cases readMember verbose n pending items cs with
  | case1 =>
    refine .refused rfl fun e x h => ?_
    obtain ⟨c, hc⟩ := readMember_suffix readClass_suffix h
    exact suffix_of_cons_suffix hc
  | case2 rest item z hascii =>
    have hle := (readAscii?_suffix hascii).length_le
    rw [List.length_cons] at hn
    rw [List.cons_append, readMember, readAscii?_append, hascii]
    exact ih _ _ _ (by omega)
  | case3 rest hascii =>
    rw [List.cons_append, readMember, readAscii?_append, hascii]
    refine (readOpening_meets verbose s rest).bind (fun o z ho => ?_) (fun o => ?_)
      fun o z e x h => ?_
    · obtain ⟨opening, hopening, rfl⟩ := exists_of_read ho
      have hle := (readOpening_suffix hopening).length_le
      rw [List.length_cons] at hn
      refine (ih _ _ _ (by dsimp only; omega)).bind (fun body z hbody => ?_) (fun body => ?_)
        fun body z e x h => ?_
      · obtain ⟨c, hc⟩ := readClass_suffix hbody
        have hlt := hc.length_le
        rw [List.length_cons] at hlt
        exact ih _ _ _ (by dsimp only at hlt ⊢; omega)
      · rw [readClass_nil, readClass_nil]
      · obtain ⟨c, hc⟩ := readClass_suffix h
        exact (List.suffix_cons c x).trans hc
    · rw [readClass_nil]
      rfl
    · obtain ⟨⟨body, y⟩, hbody, h⟩ := Option.bind_eq_some_iff.mp h
      obtain ⟨c, hc⟩ := readClass_suffix hbody
      obtain ⟨d, hd⟩ := readClass_suffix h
      exact ⟨d, hd.trans ((List.suffix_cons c y).trans hc)⟩
  | case4 rest => exact .pure _ (.same rfl)
  | case5 rest =>
    simp only [List.length_cons] at hn
    exact ih _ _ _ (by omega)
  | case6 rest =>
    simp only [List.length_cons] at hn
    exact ih _ _ _ (by omega)
  | case7 rest =>
    simp only [List.length_cons] at hn
    exact ih _ _ _ (by omega)
  | case8 _ hnil hopen hclose hand hminus htilde =>
    rw [readMember]
    · refine (readClassRange_meets verbose s cs).bind (fun item z hitem => ?_) (fun item => ?_)
        fun item z e x h => readClass_suffix h
      · obtain ⟨c, hc⟩ := readClassRange_suffix hitem
        have hlt := hc.length_le
        rw [List.length_cons] at hlt
        exact ih _ _ _ (by dsimp only; omega)
      · exact readClass_nil _ _ _
    · simp
    · exact not_begins (p := ['[']) (by decide) hopen
    · exact not_begins (p := [']']) (by decide) hclose
    · exact not_begins (p := ['&', '&']) (by decide) hand
    · exact not_begins (p := ['-', '-']) (by decide) hminus
    · exact not_begins (p := ['~', '~']) (by decide) htilde

/-- With fuel for every character, a class is read as it is with more behind it. -/
theorem readClass_apart {n m : Nat} (pending : Pending) (items : List ClassExpr)
    (hn : cs.length < n) (hm : n + s.length < m) :
    Apart s (readClass verbose n pending items cs)
      (readClass verbose m pending items (cs ++ ')' :: s)) := by
  induction n generalizing m pending items cs with
  | zero => omega
  | succ n ih =>
    obtain ⟨m, rfl⟩ : ∃ k, m = k + 1 := ⟨m - 1, by omega⟩
    have hle := (skipIgnored_suffix verbose cs).length_le
    rw [readClass_succ, readClass_succ]
    refine (skipIgnored_remains verbose s cs).apart (fun hz => ?_) rfl fun z e x h => ?_
    · rw [hz]
      exact readMember_apart _ _ (by omega) fun pending items z hlt => ih _ _ hlt (by omega)
    · obtain ⟨c, hc⟩ := readMember_suffix readClass_suffix h
      exact (List.suffix_cons c x).trans hc

theorem readBracket_eq (cs : List Char) : readBracket verbose cs =
    ((readOpening verbose cs).map ClassOpening.read).bind fun o =>
      (readClass verbose (cs.length + 1) none o.1.2 o.2).map fun p =>
        (.bracket o.1.1 p.1, p.2) := by
  rw [readBracket, Option.bind_map]
  show (readOpening verbose cs).bind _ = _
  congr 1
  funext opening
  show (readClass verbose (cs.length + 1) none opening.items opening.rest).bind _ =
    (readClass verbose (cs.length + 1) none opening.items opening.rest).map _
  cases readClass verbose (cs.length + 1) none opening.items opening.rest <;> rfl

theorem readBracket_suffix {e : Expr} (h : readBracket verbose cs = some (e, x)) : x <:+ cs := by
  rw [readBracket_eq] at h
  obtain ⟨⟨⟨negated, own⟩, y⟩, ho, h⟩ := Option.bind_eq_some_iff.mp h
  obtain ⟨opening, hopening, rfl⟩ := exists_of_read ho
  obtain ⟨body, hbody⟩ := exists_of_map h
  obtain ⟨c, hc⟩ := readClass_suffix hbody
  exact (List.suffix_cons c x).trans (hc.trans (readOpening_suffix hopening))

theorem readBracket_apart (verbose : Bool) (s cs : List Char) :
    Apart s (readBracket verbose cs) (readBracket verbose (cs ++ ')' :: s)) := by
  rw [readBracket_eq, readBracket_eq]
  refine (readOpening_meets verbose s cs).bind (fun o z ho => ?_) (fun o => ?_) fun o z e x h => ?_
  · obtain ⟨opening, hopening, rfl⟩ := exists_of_read ho
    have hle := (readOpening_suffix hopening).length_le
    exact (readClass_apart _ _ (by dsimp only; omega) (fuel_lt s cs)).map _
  · rw [readClass_nil]
    rfl
  · obtain ⟨body, hbody⟩ := exists_of_map h
    exact readClass_suffix hbody

end BinlogCursor.Pattern
