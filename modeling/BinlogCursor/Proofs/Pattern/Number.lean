/-
Codes of characters and counts of repetitions are read by themselves as they are
read with a closing parenthesis and more behind them (`readHex_apart`,
`readCounts_apart`).
-/
import BinlogCursor.Proofs.Pattern.Apart

namespace BinlogCursor.Pattern

open Text (isBlank trimStart)

variable {verbose : Bool} {s cs x z : List Char}

/-! ## Hexadecimal digits -/

theorem readHexDigits_suffix {count value code : Nat}
    (h : readHexDigits verbose count value cs = some (code, x)) : x <:+ cs := by
  induction count generalizing value cs with
  | zero =>
    simp only [readHexDigits, Option.some.injEq, Prod.mk.injEq] at h
    exact h.2 ▸ List.suffix_rfl
  | succ count ih =>
    cases cs with
    | nil => simp [readHexDigits] at h
    | cons c cs =>
      simp only [readHexDigits, Option.bind_eq_bind, Option.bind_eq_some_iff] at h
      obtain ⟨d, -, h⟩ := h
      exact ((ih h).trans (skipIgnored_suffix verbose cs)).trans (List.suffix_cons c cs)

theorem readHexDigits_apart (verbose : Bool) (count value : Nat) (s cs : List Char) :
    Apart s (readHexDigits verbose count value cs)
      (readHexDigits verbose count value (cs ++ ')' :: s)) := by
  induction count generalizing value cs with
  | zero => exact .pure value (.same rfl)
  | succ count ih =>
    cases cs with
    | nil => exact .refused rfl nofun
    | cons c cs =>
      simp only [List.cons_append, readHexDigits, Option.bind_eq_bind]
      cases hexValue? c with
      | none => exact .none
      | some d =>
        simp only [Option.bind_some]
        refine (skipIgnored_remains verbose s cs).apart (fun hz => ?_) rfl
          fun z a x h => readHexDigits_suffix h
        rw [hz]
        exact ih _ _

theorem readHexBraced_suffix {fuel code : Nat} {value : Option Nat}
    (h : readHexBraced verbose fuel value cs = some (code, x)) : x <:+ cs := by
  induction fuel generalizing value cs with
  | zero => simp [readHexBraced] at h
  | succ fuel ih =>
    cases cs with
    | nil => simp [readHexBraced] at h
    | cons c cs =>
      have hrest := (skipIgnored_suffix verbose cs).trans (List.suffix_cons c cs)
      simp only [readHexBraced] at h
      split at h
      · obtain ⟨_, -, h⟩ := Option.map_eq_some_iff.mp h
        obtain ⟨-, rfl⟩ := Prod.mk.inj h
        exact hrest
      · simp only [Option.bind_eq_bind, Option.bind_eq_some_iff] at h
        obtain ⟨d, -, h⟩ := h
        exact (ih h).trans hrest

theorem readHexBraced_apart {n m : Nat} (value : Option Nat) (hn : cs.length < n)
    (hm : n + s.length < m) : Apart s (readHexBraced verbose n value cs)
      (readHexBraced verbose m value (cs ++ ')' :: s)) := by
  induction n generalizing m value cs with
  | zero => omega
  | succ n ih =>
    obtain ⟨m, rfl⟩ : ∃ k, m = k + 1 := ⟨m - 1, by omega⟩
    cases cs with
    | nil => exact .refused rfl nofun
    | cons c cs =>
      have hle := (skipIgnored_suffix verbose cs).length_le
      rw [List.length_cons] at hn
      simp only [List.cons_append, readHexBraced]
      split
      · cases value with
        | none => exact .none
        | some value => exact .pure value (skipIgnored_remains verbose s cs)
      · simp only [Option.bind_eq_bind]
        cases hexValue? c with
        | none => exact .none
        | some d =>
          simp only [Option.bind_some]
          refine (skipIgnored_remains verbose s cs).apart (fun hz => ?_)
            (by cases n <;> cases m <;> rfl) fun z a x h => readHexBraced_suffix h
          rw [hz]
          exact ih _ (by omega) (by omega)

/-- Reads the digits of a code in braces. -/
def readBraced (verbose : Bool) (cs : List Char) : Option (Nat × List Char) :=
  readHexBraced verbose (cs.length + 1) none cs

theorem readBraced_apart (h : Remains s cs z) :
    Apart s (readBraced verbose cs) (readBraced verbose z) := by
  refine h.apart (fun hz => ?_) rfl fun z a x hx => readHexBraced_suffix hx
  subst hz
  exact readHexBraced_apart none (Nat.lt_succ_self _) (fuel_lt s _)

/-- The character with a code, if there is one, as a literal. -/
def literalOf? (isByte : Bool) (code : Nat) : Option Literal :=
  (charOfCode? code).map (⟨·, isByte⟩)

/-- Reads the code of a character where blanks have been skipped. -/
def readCode (verbose : Bool) (count : Nat) : List Char → Option (Literal × List Char)
  | '\x7b' :: rest =>
    (readBraced verbose (skipIgnored verbose rest)).bind fun p =>
      (literalOf? false p.1).map (·, p.2)
  | cs =>
    (readHexDigits verbose count 0 cs).bind fun p => (literalOf? (count == 2) p.1).map (·, p.2)

theorem bind_literalOf? (isByte : Bool) (o : Option (Nat × List Char)) :
    (o.bind fun (code, rest) => (charOfCode? code).bind fun c => some (⟨c, isByte⟩, rest)) =
      o.bind fun p => (literalOf? isByte p.1).map (·, p.2) := by
  congr 1
  funext ⟨code, rest⟩
  simp only [literalOf?]
  cases charOfCode? code <;> rfl

theorem readHex_eq (count : Nat) :
    readHex verbose count cs = readCode verbose count (skipIgnored verbose cs) := by
  rw [readHex]
  generalize skipIgnored verbose cs = cs
  fun_cases readCode verbose count cs with
  | case1 rest => exact bind_literalOf? false _
  | case2 _ hbrace =>
    split
    · simp_all
    · exact bind_literalOf? _ _

theorem readCode_suffix {count : Nat} {l : Literal}
    (h : readCode verbose count cs = some (l, x)) : x <:+ cs := by
  rw [readCode.eq_def] at h
  split at h
  · rename_i rest
    obtain ⟨code, h⟩ := exists_of_filterMap h
    exact ((readHexBraced_suffix h).trans (skipIgnored_suffix verbose rest)).trans
      (List.suffix_cons _ rest)
  · obtain ⟨code, h⟩ := exists_of_filterMap h
    exact readHexDigits_suffix h

theorem readCode_apart (count : Nat) :
    Apart s (readCode verbose count cs) (readCode verbose count (cs ++ ')' :: s)) := by
  fun_cases readCode verbose count cs with
  | case1 rest =>
    rw [List.cons_append, readCode]
    exact (readBraced_apart (skipIgnored_remains verbose s rest)).filterMap (literalOf? false)
  | case2 _ hbrace =>
    rw [readCode]
    · exact (readHexDigits_apart verbose count 0 s _).filterMap (literalOf? _)
    · exact not_begins (p := ['\x7b']) (by decide) hbrace

theorem readHex_suffix {count : Nat} {l : Literal}
    (h : readHex verbose count cs = some (l, x)) : x <:+ cs := by
  rw [readHex_eq] at h
  exact (readCode_suffix h).trans (skipIgnored_suffix verbose cs)

theorem readHex_apart (verbose : Bool) (count : Nat) (s cs : List Char) :
    Apart s (readHex verbose count cs) (readHex verbose count (cs ++ ')' :: s)) := by
  rw [readHex_eq, readHex_eq]
  refine (skipIgnored_remains verbose s cs).apart (fun hz => ?_) rfl fun z a x h =>
    readCode_suffix h
  rw [hz]
  exact readCode_apart count

/-! ## Counts -/

theorem trimStart_append (cs s : List Char) :
    trimStart (cs ++ ')' :: s) = trimStart cs ++ ')' :: s := by
  induction cs with
  | nil => rfl
  | cons c cs ih =>
    cases hc : isBlank c with
    | false => simp [trimStart, hc]
    | true => simpa [trimStart, hc] using ih

theorem takeCount_suffix (verbose : Bool) (fuel : Nat) (value : Option Nat) (cs : List Char) :
    (takeCount verbose fuel value cs).2 <:+ cs := by
  induction fuel generalizing value cs with
  | zero => exact List.suffix_rfl
  | succ fuel ih =>
    cases cs with
    | nil => exact List.suffix_rfl
    | cons c cs =>
      simp only [takeCount]
      split
      · exact ((ih _ _).trans (skipIgnored_suffix verbose cs)).trans (List.suffix_cons c cs)
      · exact List.suffix_rfl

theorem takeCount_meets {n m : Nat} (value : Option Nat) (hn : cs.length < n)
    (hm : n + s.length < m) :
    Meets s (some (takeCount verbose n value cs))
      (some (takeCount verbose m value (cs ++ ')' :: s))) := by
  induction n generalizing m value cs with
  | zero => omega
  | succ n ih =>
    obtain ⟨m, rfl⟩ : ∃ k, m = k + 1 := ⟨m - 1, by omega⟩
    cases cs with
    | nil => exact .same value [] rfl rfl
    | cons c cs =>
      have hle := (skipIgnored_suffix verbose cs).length_le
      rw [List.length_cons] at hn
      simp only [List.cons_append, takeCount]
      split
      · refine (skipIgnored_remains verbose s cs).meets_some (fun hz => ?_)
          (takeCount_suffix verbose n _) (takeCount_suffix verbose m _)
        rw [hz]
        exact ih _ (by omega) (by omega)
      · exact .same value (c :: cs) rfl rfl

/-- Skips the blanks behind a count, which must be within 32 bits. -/
def settleCount (verbose : Bool) : Option Nat × List Char → Option (Option Nat × List Char)
  | (value, rest) =>
    let rest := match rest with
      | c :: _ => if isBlank c then skipIgnored verbose (trimStart rest) else rest
      | [] => []
    if value.any (UInt32.size ≤ ·) then none else some (value, rest)

theorem settleCount_suffix {value value' : Option Nat}
    (h : settleCount verbose (value, cs) = some (value', x)) : x <:+ cs := by
  simp only [settleCount] at h
  split at h
  · cases h
  · obtain ⟨-, rfl⟩ := Prod.mk.inj (Option.some.inj h)
    split
    · split
      · exact (skipIgnored_suffix _ _).trans (List.dropWhile_suffix _)
      · exact List.suffix_rfl
    · exact List.suffix_rfl

theorem settleCount_meets (value : Option Nat) (cs : List Char) :
    Meets s (settleCount verbose (value, cs)) (settleCount verbose (value, cs ++ ')' :: s)) := by
  simp only [settleCount]
  split
  · exact Apart.none.meets
  · cases cs with
    | nil => exact (Apart.pure value (.same rfl)).meets
    | cons c cs =>
      simp only [List.cons_append]
      split
      · rw [← List.cons_append, trimStart_append]
        exact (Apart.pure value (skipIgnored_remains verbose s _)).meets
      · exact (Apart.pure value (.same rfl)).meets

theorem readCount_eq (cs : List Char) : readCount verbose cs =
    (some (takeCount verbose ((trimStart cs).length + 1) none (trimStart cs))).bind
      (settleCount verbose) := rfl

theorem readCount_suffix {value : Option Nat} (h : readCount verbose cs = some (value, x)) :
    x <:+ cs := by
  rw [readCount_eq, Option.bind_some] at h
  exact ((settleCount_suffix h).trans (takeCount_suffix _ _ _ _)).trans (List.dropWhile_suffix _)

theorem readCount_meets (cs : List Char) :
    Meets s (readCount verbose cs) (readCount verbose (cs ++ ')' :: s)) := by
  rw [readCount_eq, readCount_eq, trimStart_append]
  exact (takeCount_meets none (Nat.lt_succ_self _) (fuel_lt s _)).bind_meets
    (fun value z => settleCount_meets value z) fun value z value' x h => settleCount_suffix h

/-- Reads the brace behind an upper count. -/
def closeCounts (min max : Nat) : List Char → Option ((Nat × Option Nat) × List Char)
  | '\x7d' :: rest => if min ≤ max then some ((min, some max), rest) else none
  | _ => none

/-- Reads an upper count and what is behind it, where blanks have been skipped. -/
def readUpper (verbose : Bool) (min : Nat) : List Char → Option ((Nat × Option Nat) × List Char)
  | '\x7d' :: rest => some ((min, none), rest)
  | cs => (readCount verbose cs).bind fun p => p.1.bind fun max => closeCounts min max p.2

/-- Reads what is behind a lower count. -/
def readBehindLower (verbose : Bool) (min : Nat) :
    List Char → Option ((Nat × Option Nat) × List Char)
  | '\x7d' :: rest => some ((min, some min), rest)
  | ',' :: rest => readUpper verbose min (skipIgnored verbose rest)
  | _ => none

/-- The counts of a repetition as one. -/
def countsOf (p : Nat × Option Nat × List Char) : (Nat × Option Nat) × List Char :=
  ((p.1, p.2.1), p.2.2)

theorem closeCounts_eq (min max : Nat) (cs : List Char) : closeCounts min max cs =
    Option.map countsOf (match cs with
      | '\x7d' :: rest => if min ≤ max then some (min, some max, rest) else none
      | _ => none) := by
  fun_cases closeCounts min max cs with
  | case1 rest hle => simp [hle, countsOf]
  | case2 rest hlt => simp [hlt]
  | case3 hcs =>
    split
    · simp_all
    · rfl

theorem readUpper_eq (min : Nat) (cs : List Char) : readUpper verbose min cs =
    Option.map countsOf (match cs with
      | '\x7d' :: rest => some (min, none, rest)
      | rest => (readCount verbose rest).bind fun p => p.1.bind fun max =>
        match p.2 with
        | '\x7d' :: rest => if min ≤ max then some (min, some max, rest) else none
        | _ => none) := by
  fun_cases readUpper verbose min cs with
  | case1 rest => rfl
  | case2 hcs =>
    split
    · simp_all
    · simp only [Option.map_bind, Function.comp_def, closeCounts_eq]

theorem readCounts_eq (cs : List Char) : (readCounts verbose cs).map countsOf =
    (readCount verbose (skipIgnored verbose cs)).bind fun p =>
      p.1.bind fun min => readBehindLower verbose min p.2 := by
  simp only [readCounts, Option.bind_eq_bind, Option.pure_def, Option.map_bind]
  congr 1
  funext ⟨min, rest⟩
  cases min with
  | none => rfl
  | some min =>
    simp only [Function.comp_apply, Option.bind_some]
    fun_cases readBehindLower verbose min rest with
    | case1 rest => rfl
    | case2 rest => exact (readUpper_eq min _).symm
    | case3 hbrace hcomma =>
      split
      · simp_all
      · simp_all
      · rfl

theorem closeCounts_suffix {min max : Nat} {counts : Nat × Option Nat}
    (h : closeCounts min max cs = some (counts, x)) : ∃ c, c :: x <:+ cs := by
  rw [closeCounts.eq_def] at h
  split at h
  · split at h
    · obtain ⟨-, rfl⟩ := Prod.mk.inj (Option.some.inj h)
      exact ⟨_, List.suffix_rfl⟩
    · cases h
  · cases h

theorem closeCounts_apart (min max : Nat) (cs : List Char) :
    Apart s (closeCounts min max cs) (closeCounts min max (cs ++ ')' :: s)) := by
  fun_cases closeCounts min max cs with
  | case1 rest hle =>
    rw [List.cons_append, closeCounts, if_pos hle]
    exact .pure _ (.same rfl)
  | case2 rest hlt =>
    rw [List.cons_append, closeCounts, if_neg hlt]
    exact .none
  | case3 _ hbrace =>
    rw [closeCounts]
    · exact .none
    · exact not_begins (p := ['\x7d']) (by decide) hbrace

theorem readUpper_suffix {min : Nat} {counts : Nat × Option Nat}
    (h : readUpper verbose min cs = some (counts, x)) : ∃ c, c :: x <:+ cs := by
  rw [readUpper.eq_def] at h
  split at h
  · obtain ⟨-, rfl⟩ := Prod.mk.inj (Option.some.inj h)
    exact ⟨_, List.suffix_rfl⟩
  · simp only [Option.bind_eq_some_iff] at h
    obtain ⟨⟨value, rest⟩, hcount, max, -, h⟩ := h
    obtain ⟨c, hc⟩ := closeCounts_suffix h
    exact ⟨c, hc.trans (readCount_suffix hcount)⟩

theorem readUpper_apart (min : Nat) (cs : List Char) :
    Apart s (readUpper verbose min cs) (readUpper verbose min (cs ++ ')' :: s)) := by
  fun_cases readUpper verbose min cs with
  | case1 rest => exact .pure _ (.same rfl)
  | case2 _ hbrace =>
    rw [readUpper]
    · refine (readCount_meets _).bind (fun value z _ => ?_) (fun value => ?_)
        fun value z p x h => ?_
      · cases value with
        | none => exact .none
        | some max => exact closeCounts_apart min max z
      · cases value <;> rfl
      · obtain ⟨max, -, h⟩ := Option.bind_eq_some_iff.mp h
        exact closeCounts_suffix h
    · exact not_begins (p := ['\x7d']) (by decide) hbrace

theorem readBehindLower_suffix {min : Nat} {counts : Nat × Option Nat}
    (h : readBehindLower verbose min cs = some (counts, x)) : ∃ c, c :: x <:+ cs := by
  rw [readBehindLower.eq_def] at h
  split at h
  · obtain ⟨-, rfl⟩ := Prod.mk.inj (Option.some.inj h)
    exact ⟨_, List.suffix_rfl⟩
  · rename_i rest
    obtain ⟨c, hc⟩ := readUpper_suffix h
    exact ⟨c, (hc.trans (skipIgnored_suffix verbose rest)).trans (List.suffix_cons _ rest)⟩
  · cases h

theorem readBehindLower_apart (min : Nat) (cs : List Char) :
    Apart s (readBehindLower verbose min cs) (readBehindLower verbose min (cs ++ ')' :: s)) := by
  fun_cases readBehindLower verbose min cs with
  | case1 rest => exact .pure _ (.same rfl)
  | case2 rest =>
    rw [List.cons_append, readBehindLower]
    refine (skipIgnored_remains verbose s rest).apart (fun hz => ?_) rfl fun z a x h => ?_
    · rw [hz]
      exact readUpper_apart min _
    · obtain ⟨c, hc⟩ := readUpper_suffix h
      exact (List.suffix_cons c x).trans hc
  | case3 _ hbrace hcomma =>
    rw [readBehindLower]
    · exact .none
    · exact not_begins (p := ['\x7d']) (by decide) hbrace
    · exact not_begins (p := [',']) (by decide) hcomma

theorem readCounts_suffix {counts : Nat × Option Nat}
    (h : (readCounts verbose cs).map countsOf = some (counts, x)) : x <:+ cs := by
  rw [readCounts_eq] at h
  obtain ⟨⟨value, rest⟩, hcount, h⟩ := Option.bind_eq_some_iff.mp h
  obtain ⟨min, -, h⟩ := Option.bind_eq_some_iff.mp h
  obtain ⟨c, hc⟩ := readBehindLower_suffix h
  exact ((List.suffix_cons c x).trans hc).trans
    ((readCount_suffix hcount).trans (skipIgnored_suffix verbose cs))

theorem readCounts_apart (verbose : Bool) (s cs : List Char) :
    Apart s ((readCounts verbose cs).map countsOf)
      ((readCounts verbose (cs ++ ')' :: s)).map countsOf) := by
  rw [readCounts_eq, readCounts_eq]
  have hcount : Meets s (readCount verbose (skipIgnored verbose cs))
      (readCount verbose (skipIgnored verbose (cs ++ ')' :: s))) := by
    refine (skipIgnored_remains verbose s cs).meets (fun hz => ?_)
      (fun z a x h => readCount_suffix h) fun z a x h => readCount_suffix h
    rw [hz]
    exact readCount_meets _
  refine hcount.bind (fun value z _ => ?_) (fun value => ?_) fun value z p x h => ?_
  · cases value with
    | none => exact .none
    | some min => exact readBehindLower_apart min z
  · cases value <;> rfl
  · obtain ⟨min, -, h⟩ := Option.bind_eq_some_iff.mp h
    exact readBehindLower_suffix h

end BinlogCursor.Pattern
