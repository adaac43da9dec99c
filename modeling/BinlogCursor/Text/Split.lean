/-
Cutting text at a separator, and putting the pieces together again.
Main statements: joining what was split gives the text back (`join_split`), and
what is cut at a separator is the text before it and the text behind it
(`cutFirst_eq_some_iff`).
-/

namespace BinlogCursor.Text

/-- All pieces between the separators; a text without one is a single piece. -/
def split (sep : Char) : List Char → List (List Char)
  | [] => [[]]
  | c :: cs =>
    if c = sep then [] :: split sep cs
    else
      match split sep cs with
      | [] => [[c]]
      | piece :: pieces => (c :: piece) :: pieces

def join (sep : Char) : List (List Char) → List Char
  | [] => []
  | [piece] => piece
  | piece :: pieces => piece ++ sep :: join sep pieces

/-- The text before and the text after the first separator. -/
def cutFirst (sep : Char) : List Char → Option (List Char × List Char)
  | [] => none
  | c :: cs =>
    if c = sep then some ([], cs)
    else (cutFirst sep cs).map fun (before, after) => (c :: before, after)

def cutLast (sep : Char) (cs : List Char) : Option (List Char × List Char) :=
  (cutFirst sep cs.reverse).map fun (after, before) => (before.reverse, after.reverse)

theorem split_ne_nil (sep : Char) (cs : List Char) : split sep cs ≠ [] := by
  cases cs with
  | nil => simp [split]
  | cons c r =>
    simp only [split]
    split
    · simp
    · split <;> simp

theorem join_cons_of_ne_nil (sep : Char) (piece : List Char) {pieces : List (List Char)}
    (h : pieces ≠ []) : join sep (piece :: pieces) = piece ++ sep :: join sep pieces := by
  cases pieces with
  | nil => exact absurd rfl h
  | cons p ps => rfl

theorem join_split (sep : Char) (cs : List Char) : join sep (split sep cs) = cs := by
  induction cs with
  | nil => rfl
  | cons c r ih =>
    simp only [split]
    split
    · rename_i hc
      rw [join_cons_of_ne_nil sep [] (split_ne_nil sep r), ih, hc]
      rfl
    · split
      · rename_i hs
        exact absurd hs (split_ne_nil sep r)
      · rename_i piece pieces hs
        rw [hs] at ih
        cases pieces with
        | nil => simpa [join] using ih
        | cons p ps => simpa [join] using ih

theorem split_of_not_mem {sep : Char} {cs : List Char} (h : sep ∉ cs) : split sep cs = [cs] := by
  induction cs with
  | nil => rfl
  | cons c r ih =>
    have hc : c ≠ sep := fun e => h (by simp [e])
    have hr : sep ∉ r := fun e => h (by simp [e])
    simp [split, hc, ih hr]

theorem split_append_sep {sep : Char} {piece : List Char} (h : sep ∉ piece) (rest : List Char) :
    split sep (piece ++ sep :: rest) = piece :: split sep rest := by
  induction piece with
  | nil => simp [split]
  | cons c r ih =>
    have hc : c ≠ sep := fun e => h (by simp [e])
    have hr : sep ∉ r := fun e => h (by simp [e])
    simp [split, hc, ih hr]

theorem cutFirst_eq_some_iff {sep : Char} {cs before after : List Char} :
    cutFirst sep cs = some (before, after) ↔ cs = before ++ sep :: after ∧ sep ∉ before := by
  induction cs generalizing before with
  | nil => simp [cutFirst]
  | cons c r ih =>
    simp only [cutFirst]
    split
    · rename_i hc
      constructor
      · intro h
        simp only [Option.some.injEq, Prod.mk.injEq] at h
        obtain ⟨rfl, rfl⟩ := h
        simp [hc]
      · rintro ⟨h, hn⟩
        cases before with
        | nil => simp_all
        | cons b bs => simp_all
    · rename_i hc
      simp only [Option.map_eq_some_iff, Prod.mk.injEq, Prod.exists]
      constructor
      · rintro ⟨b, a, h, rfl, rfl⟩
        obtain ⟨rfl, hn⟩ := ih.mp h
        exact ⟨rfl, by simp [hn, Ne.symm hc]⟩
      · rintro ⟨h, hn⟩
        cases before with
        | nil => simp_all
        | cons b bs =>
          simp only [List.cons_append, List.cons.injEq] at h
          obtain ⟨rfl, rfl⟩ := h
          exact ⟨bs, after, ih.mpr ⟨rfl, fun e => hn (by simp [e])⟩, rfl, rfl⟩

theorem cutFirst_eq_none_iff {sep : Char} {cs : List Char} :
    cutFirst sep cs = none ↔ sep ∉ cs := by
  induction cs with
  | nil => simp [cutFirst]
  | cons c r ih =>
    simp only [cutFirst]
    split
    · simp_all
    · rename_i hc
      simp [ih, Ne.symm hc]

theorem cutLast_eq_some_iff {sep : Char} {cs before after : List Char} :
    cutLast sep cs = some (before, after) ↔ cs = before ++ sep :: after ∧ sep ∉ after := by
  simp only [cutLast, Option.map_eq_some_iff, Prod.exists, Prod.mk.injEq]
  constructor
  · rintro ⟨a, b, h, rfl, rfl⟩
    obtain ⟨hr, hn⟩ := cutFirst_eq_some_iff.mp h
    exact ⟨List.reverse_inj.mp (by simpa using hr), by simpa using hn⟩
  · rintro ⟨rfl, hn⟩
    refine ⟨after.reverse, before.reverse, cutFirst_eq_some_iff.mpr ⟨?_, ?_⟩, ?_, ?_⟩ <;>
      simp [hn]

end BinlogCursor.Text
