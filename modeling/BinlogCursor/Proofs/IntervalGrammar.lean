/-
The grammar of interval lists: numerals, intervals, and what stands between separators.

`Text.Listed` is a text of pieces with a separator between them. `Interval.read_eq_ok_iff` and
`IntervalSet.read_eq_ok_iff`: what is read is what the grammar spells, and nothing else is. Other
texts are refused for their form (`IntervalSet.failsWith_read`).
-/
import BinlogCursor.IntervalSet
import BinlogCursor.Proofs.Outcome

namespace BinlogCursor

namespace Text

variable {α : Type} {sep : Char} {Spells : List Char → α → Prop}

/-! ## Separators -/

/-- A piece of a text has characters of it, and none that separates. -/
theorem mem_of_mem_split {sep : Char} {cs piece : List Char} (h : piece ∈ split sep cs) :
    ∀ c ∈ piece, c ∈ cs ∧ c ≠ sep := by
  induction cs generalizing piece with
  | nil =>
    simp only [split, List.mem_singleton] at h
    simp [h]
  | cons a r ih =>
    intro c hc
    simp only [split] at h
    split at h
    · rcases List.mem_cons.1 h with rfl | h
      · simp at hc
      · exact ⟨List.mem_cons_of_mem _ (ih h c hc).1, (ih h c hc).2⟩
    · next hne =>
      split at h
      · next hs => exact absurd hs (split_ne_nil sep r)
      · next first pieces hs =>
        rw [hs] at ih
        rcases List.mem_cons.1 h with rfl | h
        · rcases List.mem_cons.1 hc with rfl | hc
          · exact ⟨by simp, hne⟩
          · have := ih (by simp) c hc
            exact ⟨List.mem_cons_of_mem _ this.1, this.2⟩
        · have := ih (List.mem_cons_of_mem _ h) c hc
          exact ⟨List.mem_cons_of_mem _ this.1, this.2⟩

/-- Pieces with a separator between them, one at least, each of which spells something. -/
inductive Listed (sep : Char) (Spells : List Char → α → Prop) : List Char → List α → Prop
  | last {piece : List Char} {a : α} (h : Spells piece a) : Listed sep Spells piece [a]
  | more {piece rest : List Char} {a : α} {l : List α} (h : Spells piece a)
      (hrest : Listed sep Spells rest l) : Listed sep Spells (piece ++ sep :: rest) (a :: l)

theorem Listed.ne_nil {cs : List Char} {l : List α} (h : Listed sep Spells cs l) : l ≠ [] := by
  cases h <;> simp

/-- What is listed is spelled by some piece of the text. -/
theorem Listed.exists_of_mem {cs : List Char} {l : List α} (h : Listed sep Spells cs l) {a : α}
    (ha : a ∈ l) : ∃ piece, Spells piece a ∧ piece ⊆ cs := by
  induction h with
  | last h =>
    rw [List.mem_singleton] at ha
    exact ⟨_, ha ▸ h, List.Subset.refl _⟩
  | more h _ ih =>
    rcases List.mem_cons.1 ha with rfl | ha
    · exact ⟨_, h, List.subset_append_left _ _⟩
    · obtain ⟨piece, hp, hsub⟩ := ih ha
      exact ⟨piece, hp, fun c hc => List.mem_append_right _ (List.mem_cons_of_mem _ (hsub hc))⟩

/-- Characters of a list are separators, or they belong to a piece. -/
theorem Listed.mem {cs : List Char} {l : List α} (h : Listed sep Spells cs l) {c : Char}
    (hc : c ∈ cs) : c = sep ∨ ∃ piece a, Spells piece a ∧ c ∈ piece := by
  induction h with
  | last h => exact .inr ⟨_, _, h, hc⟩
  | more h _ ih =>
    rcases List.mem_append.1 hc with hc | hc
    · exact .inr ⟨_, _, h, hc⟩
    · rcases List.mem_cons.1 hc with rfl | hc
      · exact .inl rfl
      · exact ih hc

/-- Pieces that are joined are listed. -/
theorem listed_join {pieces : List (List Char)} {l : List α} (h : List.Forall₂ Spells pieces l)
    (hne : pieces ≠ []) : Listed sep Spells (join sep pieces) l := by
  induction h with
  | nil => exact absurd rfl hne
  | @cons piece a pieces l ha hrest ih =>
    by_cases hp : pieces = []
    · subst hp
      cases hrest
      exact .last ha
    · rw [join_cons_of_ne_nil sep piece hp]
      exact .more ha (ih hp)

/-- What is listed is what the pieces spell, if no piece holds a separator. -/
theorem listed_iff_forall₂ (hsep : ∀ piece a, Spells piece a → sep ∉ piece) {cs : List Char}
    {l : List α} : Listed sep Spells cs l ↔ List.Forall₂ Spells (split sep cs) l := by
  constructor
  · intro h
    induction h with
    | last h =>
      rw [split_of_not_mem (hsep _ _ h)]
      exact .cons h .nil
    | more h _ ih =>
      rw [split_append_sep (hsep _ _ h)]
      exact .cons h ih
  · intro h
    have hj : Listed sep Spells (join sep (split sep cs)) l := listed_join h (split_ne_nil sep cs)
    rwa [join_split] at hj

/-- There is one way only to read a list, if there is one way only to read each piece. -/
theorem Listed.unique (hsep : ∀ piece a, Spells piece a → sep ∉ piece)
    (huniq : ∀ piece a b, Spells piece a → Spells piece b → a = b) {cs : List Char}
    {l l' : List α} (h : Listed sep Spells cs l) (h' : Listed sep Spells cs l') : l = l' := by
  have hall := (listed_iff_forall₂ hsep).1 h
  have hall' := (listed_iff_forall₂ hsep).1 h'
  exact List.right_unique_forall₂' huniq hall hall'

/-! ## Numerals -/

/-- A non-empty run of digits, of a value within 64 bits. -/
def Numeral (cs : List Char) (n : UInt64) : Prop :=
  cs ≠ [] ∧ (∀ c ∈ cs, isDigit c = true) ∧ digitsValue cs = n.toNat

end Text

/-! ## Intervals -/

namespace Interval

/-- An interval is spelled as a number, or as two in order with a hyphen between them. -/
inductive Spelled : List Char → Interval → Prop
  | number {cs : List Char} {n : UInt64} (h : Text.Numeral cs n) : Spelled cs ⟨n, n⟩
  | range {low high : List Char} {first last : UInt64} (hlow : Text.Numeral low first)
      (hhigh : Text.Numeral high last) (hle : first ≤ last) :
      Spelled (low ++ '-' :: high) ⟨first, last⟩

theorem Spelled.valid {cs : List Char} {i : Interval} (h : Spelled cs i) : i.Valid := by
  cases h with
  | number => exact Nat.le_refl _
  | range _ _ hle => exact UInt64.le_iff_toNat_le.1 hle

theorem Spelled.mem {cs : List Char} {i : Interval} (h : Spelled cs i) {c : Char} (hc : c ∈ cs) :
    Text.isDigit c = true ∨ c = '-' := by
  cases h with
  | number h => exact .inl (h.2.1 c hc)
  | range hlow hhigh =>
    rcases List.mem_append.1 hc with hc | hc
    · exact .inl (hlow.2.1 c hc)
    · rcases List.mem_cons.1 hc with rfl | hc
      · exact .inr rfl
      · exact .inl (hhigh.2.1 c hc)

theorem hyphen_not_mem_numeral {cs : List Char} {n : UInt64} (h : Text.Numeral cs n) :
    '-' ∉ cs := fun hc => absurd (h.2.1 _ hc) (by decide)

theorem readBound_eq_ok_iff {segment bound : List Char} {n : UInt64} :
    readBound segment bound = .ok n ↔ Text.Numeral bound n := by
  have hvalue : (Text.natural? bound).bind Text.word64? = some n ↔ Text.Numeral bound n := by
    simp only [Option.bind_eq_some_iff, Text.natural?_eq_some_iff, Text.word64?_eq_some_iff,
      Text.Numeral]
    constructor
    · rintro ⟨_, ⟨hne, hall, rfl⟩, hn⟩
      exact ⟨hne, hall, hn⟩
    · rintro ⟨hne, hall, hn⟩
      exact ⟨_, ⟨hne, hall, rfl⟩, hn⟩
  rw [← hvalue]
  unfold readBound
  cases (Text.natural? bound).bind Text.word64? <;> simp

/-- An interval is read from the texts that spell it. -/
theorem read_eq_ok_iff {cs : List Char} {i : Interval} : read cs = .ok i ↔ Spelled cs i := by
  constructor
  · intro h
    simp only [read] at h
    split at h
    · next low high hcut =>
      obtain ⟨rfl, -⟩ := Text.cutFirst_eq_some_iff.1 hcut
      simp only [Outcome.bind_ok_iff, readBound_eq_ok_iff, ofBounds] at h
      obtain ⟨first, hlow, last, hhigh, h⟩ := h
      split at h
      · cases h
      · next hle =>
        cases h
        exact .range hlow hhigh (UInt64.not_lt.1 hle)
    · simp only [Outcome.bind_ok_iff, Outcome.pure_ok_iff, readBound_eq_ok_iff] at h
      obtain ⟨only, honly, rfl⟩ := h
      exact .number honly
  · intro h
    cases h with
    | number h =>
      have hcut := Text.cutFirst_eq_none_iff.2 (hyphen_not_mem_numeral h)
      simp only [read, hcut, Outcome.bind_ok_iff, readBound_eq_ok_iff]
      exact ⟨_, h, rfl⟩
    | @range low high first last hlow hhigh hle =>
      have hcut : Text.cutFirst '-' (low ++ '-' :: high) = some (low, high) :=
        Text.cutFirst_eq_some_iff.2 ⟨rfl, hyphen_not_mem_numeral hlow⟩
      simp only [read, hcut, Outcome.bind_ok_iff, readBound_eq_ok_iff]
      exact ⟨first, hlow, last, hhigh, by rw [ofBounds, if_neg (UInt64.not_lt.2 hle)]⟩

instance (cs : List Char) (i : Interval) : Decidable (Spelled cs i) :=
  decidable_of_iff _ read_eq_ok_iff

theorem Spelled.unique {cs : List Char} {i j : Interval} (hi : Spelled cs i) (hj : Spelled cs j) :
    i = j := by
  have h := read_eq_ok_iff.2 hi
  rw [read_eq_ok_iff.2 hj] at h
  exact (Except.ok.inj h).symm

theorem Spelled.colon_not_mem {cs : List Char} {i : Interval} (h : Spelled cs i) : ':' ∉ cs := by
  intro hc
  rcases h.mem hc with hd | he
  · exact absurd hd (by decide)
  · exact absurd he (by decide)

theorem failsWith_readBound (segment bound : List Char) :
    Outcome.FailsWith Fault.IsFormat (readBound segment bound) := by
  unfold readBound
  split
  · exact Outcome.failsWith_ok _
  · exact Outcome.failsWith_error ⟨_, rfl⟩

theorem failsWith_read (cs : List Char) : Outcome.FailsWith Fault.IsFormat (read cs) := by
  unfold read
  split
  · refine (failsWith_readBound _ _).bind fun first => (failsWith_readBound _ _).bind fun last => ?_
    unfold ofBounds
    split
    · exact Outcome.failsWith_error ⟨_, rfl⟩
    · exact Outcome.failsWith_ok _
  · exact (failsWith_readBound _ _).bind fun _ => Outcome.failsWith_ok _

end Interval

/-! ## Lists of intervals -/

namespace IntervalSet

theorem mem_of_listed {cs : List Char} {l : List Interval}
    (h : Text.Listed ':' Interval.Spelled cs l) {c : Char} (hc : c ∈ cs) :
    Text.isDigit c = true ∨ c = '-' ∨ c = ':' := by
  rcases h.mem hc with rfl | ⟨piece, i, hi, hc⟩
  · exact .inr (.inr rfl)
  · rcases hi.mem hc with hd | hh
    · exact .inl hd
    · exact .inr (.inl hh)

theorem listed_intervals_iff {cs : List Char} {l : List Interval} :
    Text.Listed ':' Interval.Spelled cs l ↔
      List.Forall₂ Interval.Spelled (Text.split ':' cs) l :=
  Text.listed_iff_forall₂ fun _ _ => Interval.Spelled.colon_not_mem

instance (cs : List Char) (l : List Interval) :
    Decidable (Text.Listed ':' Interval.Spelled cs l) :=
  decidable_of_iff _ listed_intervals_iff.symm

/-- A set is read from the texts that list its intervals in some order, in parts or repeatedly. -/
theorem read_eq_ok_iff {cs : List Char} {s : IntervalSet} :
    read cs = .ok s ↔ ∃ l, Text.Listed ':' Interval.Spelled cs l ∧ ofList l = s := by
  have hspelled : ∀ l, (Text.split ':' cs).mapM Interval.read = .ok l ↔
      Text.Listed ':' Interval.Spelled cs l := fun l => by
    rw [listed_intervals_iff, Outcome.mapM_ok_iff]
    simp only [Interval.read_eq_ok_iff]
  unfold read
  split
  · next hempty =>
    rw [List.isEmpty_iff] at hempty
    subst hempty
    refine ⟨fun h => (by cases h), ?_⟩
    rintro ⟨l, hl, -⟩
    obtain ⟨i, rest, hi, -, -⟩ := List.forall₂_cons_left_iff.1 (listed_intervals_iff.1 hl)
    have hread := Interval.read_eq_ok_iff.2 hi
    cases hread
  · simp only [Outcome.bind_ok_iff, Outcome.pure_ok_iff, hspelled]

theorem failsWith_read (cs : List Char) : Outcome.FailsWith Fault.IsFormat (read cs) := by
  unfold read
  split
  · exact Outcome.failsWith_error ⟨_, rfl⟩
  · exact (Outcome.FailsWith.mapM fun _ _ => Interval.failsWith_read _).bind fun _ =>
      Outcome.failsWith_ok _

end IntervalSet

end BinlogCursor
