/-
What is read of a text outside of all groups, while more and more is read, and what it means.

Parts that follow each other mean what their meanings match one behind the other
(`exists_meaning_concatOf`). Whether an expression means something, and then with which flags behind
it, is worked out part by part (`flagsBehind`). What has been read without a meaning is given none
by what is read behind it (`Reading.reflects_runs`), so that all parts of an expression that means
something do.
-/
import BinlogCursor.Pattern.Meaning
import BinlogCursor.Proofs.Pattern.Reading
import BinlogCursor.Proofs.Pattern.Spans

namespace BinlogCursor.Pattern

variable {f f' : Flags} {e : Expr} {xs ys items items' branches : List Expr}

/-! ## Parts that follow each other -/

theorem meanings_append : meanings f (xs ++ ys) =
    (meanings f xs).bind fun p => (meanings p.2 ys).map fun q => (p.1 ++ q.1, q.2) := by
  induction xs generalizing f with
  | nil =>
    simp only [List.nil_append, meanings, Option.bind_some]
    cases meanings f ys <;> rfl
  | cons e xs ih =>
    simp only [List.cons_append, meanings, ih, Option.bind_eq_bind]
    cases meaning f e with
    | none => rfl
    | some m =>
      simp only [Option.bind_some]
      cases meanings m.2 xs with
      | none => rfl
      | some p =>
        show ((meanings p.2 ys).map _).bind _ = (meanings p.2 ys).map _
        cases meanings p.2 ys <;> rfl

theorem meaning_concat :
    meaning f (.concat xs) = (meanings f xs).map fun p => (.sequence p.1, p.2) := by
  rw [meaning]
  cases meanings f xs <;> rfl

theorem meanings_singleton : meanings f [e] = (meaning f e).map fun p => ([p.1], p.2) := by
  simp only [meanings, Option.bind_eq_bind]
  cases meaning f e <;> rfl

theorem exists_meaning_concatOf {rs : List Regex} (h : meanings f items.reverse = some (rs, f')) :
    ∃ r, meaning f (concatOf items) = some (r, f') ∧
      ∀ text i j, Regex.Spans text r i j ↔ Regex.SpansAll text rs i j := by
  match items with
  | [] =>
    obtain ⟨rfl, rfl⟩ := Prod.mk.inj (Option.some.inj h)
    exact ⟨.empty, rfl, fun text i j => by rw [Regex.Spans, Regex.SpansAll]⟩
  | [e] =>
    rw [List.reverse_singleton, meanings_singleton, Option.map_eq_some_iff] at h
    obtain ⟨m, hm, hrs⟩ := h
    obtain ⟨rfl, rfl⟩ := Prod.mk.inj hrs
    exact ⟨m.1, hm, fun text i j => by simp [Regex.SpansAll]⟩
  | e :: e' :: rest =>
    refine ⟨.sequence rs, ?_, fun text i j => Regex.spans_sequence rs⟩
    show meaning f (.concat (e :: e' :: rest).reverse) = _
    rw [meaning_concat, h]
    rfl

/-! ## The flags behind an expression -/

/-- The flags for what follows an expression, if it means something. -/
def flagsBehind (f : Flags) (e : Expr) : Option Flags :=
  (meaning f e).map Prod.snd

theorem isSome_flagsBehind (f : Flags) (e : Expr) :
    (flagsBehind f e).isSome = (meaning f e).isSome :=
  Option.isSome_map

/-- Flags that are set in one part hold in those behind it. -/
theorem map_snd_meanings : (meanings f xs).map Prod.snd = xs.foldlM flagsBehind f := by
  induction xs generalizing f with
  | nil => rfl
  | cons e xs ih =>
    simp only [meanings, List.foldlM_cons, flagsBehind, Option.bind_eq_bind]
    cases meaning f e with
    | none => rfl
    | some m =>
      simp only [Option.bind_some, Option.map_some, ← ih]
      cases meanings m.2 xs <;> rfl

theorem flagsBehind_concat : flagsBehind f (.concat xs) = xs.foldlM flagsBehind f := by
  rw [flagsBehind, meaning_concat, ← map_snd_meanings]
  cases meanings f xs <;> rfl

theorem flagsBehind_alternation : flagsBehind f (.alternation xs) = xs.foldlM flagsBehind f := by
  rw [flagsBehind, meaning, ← map_snd_meanings]
  cases meanings f xs <;> rfl

theorem flagsBehind_concatOf :
    flagsBehind f (concatOf items) = items.reverse.foldlM flagsBehind f := by
  match items with
  | [] => rfl
  | [e] =>
    rw [List.reverse_singleton, List.foldlM_cons, concatOf]
    cases flagsBehind f e <;> rfl
  | e :: e' :: rest => exact flagsBehind_concat

/-- The flags of one branch hold in the next. -/
theorem flagsBehind_contentOf : flagsBehind f (contentOf branches items) =
    (branches.reverse.foldlM flagsBehind f).bind fun g => items.reverse.foldlM flagsBehind g := by
  cases branches with
  | nil => exact flagsBehind_concatOf
  | cons b branches =>
    show flagsBehind f (.alternation (concatOf items :: b :: branches).reverse) = _
    rw [flagsBehind_alternation, List.reverse_cons, List.foldlM_append]
    congr 1
    funext g
    rw [List.foldlM_cons, flagsBehind_concatOf]
    cases items.reverse.foldlM flagsBehind g <;> rfl

/-- A branch that is complete is followed as if it were not. -/
theorem flagsBehind_branch : flagsBehind f (contentOf (concatOf items :: branches) []) =
    flagsBehind f (contentOf branches items) := by
  rw [flagsBehind_contentOf, flagsBehind_contentOf, List.reverse_cons, List.foldlM_append]
  cases branches.reverse.foldlM flagsBehind f with
  | none => rfl
  | some g =>
    show ((flagsBehind g (concatOf items)).bind some).bind some = _
    rw [Option.bind_fun_some, Option.bind_fun_some, flagsBehind_concatOf]
    rfl

/-- If the parts of the last branch mean something, under whatever flags, only if others did, so
does the whole. -/
theorem isSome_contentOf_of_items
    (hitems : ∀ f, (items'.reverse.foldlM flagsBehind f).isSome = true →
      (items.reverse.foldlM flagsBehind f).isSome = true)
    (h : (flagsBehind f (contentOf branches items')).isSome = true) :
    (flagsBehind f (contentOf branches items)).isSome = true := by
  rw [flagsBehind_contentOf] at h ⊢
  cases hbranches : branches.reverse.foldlM flagsBehind f with
  | none =>
    rw [hbranches] at h
    cases h
  | some g =>
    rw [hbranches] at h
    exact hitems g h

/-- A part behind others gives these no meaning. -/
theorem isSome_of_cons (h : ((e :: items).reverse.foldlM flagsBehind f).isSome = true) :
    (items.reverse.foldlM flagsBehind f).isSome = true := by
  rw [List.reverse_cons, List.foldlM_append] at h
  exact Option.isSome_of_isSome_bind h

theorem flagsBehind_repetition {min : Nat} {max : Option Nat} {marked : Bool} :
    flagsBehind f (.repetition e min max marked) = flagsBehind f e := by
  rw [flagsBehind, flagsBehind, meaning]
  cases meaning f e <;> rfl

theorem flagsBehind_group {change : FlagChange} :
    flagsBehind f (.group change e) = (flagsBehind (f.apply change) e).map fun _ => f := by
  rw [flagsBehind, flagsBehind, meaning]
  cases meaning (f.apply change) e <;> rfl

theorem flagsBehind_capture {number : Nat} :
    flagsBehind f (.capture number e) = (flagsBehind f e).map fun _ => f := by
  rw [flagsBehind, flagsBehind, meaning]
  cases meaning f e <;> rfl

/-! ## Outside of all groups -/

namespace Reading

variable {r r' : Reading} {c : Char} {cs z : List Char}

/-- What has been read outside of all groups. -/
def ground (r : Reading) : Expr :=
  match r.frames.getLast? with
  | none => contentOf r.branches r.items
  | some g => contentOf g.branches g.items

/-- What means something outside of all groups did so before. -/
def Reflects (f : Flags) (r r' : Reading) : Prop :=
  (flagsBehind f r'.ground).isSome = true → (flagsBehind f r.ground).isSome = true

/-- More parts of the last branch. -/
theorem reflects_of_items {verbose verbose' : Bool} {frames : List Frame}
    {captures captures' : Nat} {names names' : List (List Char)}
    (hitems : ∀ f, (items'.reverse.foldlM flagsBehind f).isSome = true →
      (items.reverse.foldlM flagsBehind f).isSome = true) :
    Reflects f ⟨verbose, frames, branches, items, captures, names⟩
      ⟨verbose', frames, branches, items', captures', names'⟩ := by
  intro h
  unfold ground at h ⊢
  cases hlast : frames.getLast? with
  | none =>
    simp only [hlast] at h ⊢
    exact isSome_contentOf_of_items hitems h
  | some g =>
    simp only [hlast] at h ⊢
    exact h

theorem reflects_push (r : Reading) (e : Expr) : Reflects f r (r.push e) :=
  reflects_of_items fun _ => isSome_of_cons

theorem reflects_repeatMarked {min : Nat} {max : Option Nat} {marked : Bool}
    (h : r.repeatMarked min max marked = some r') : Reflects f r r' := by
  obtain ⟨verbose, frames, branches, items, captures, names⟩ := r
  unfold repeatMarked at h
  split at h
  · cases h
  · cases h
  · next e before _ hitems =>
    dsimp only at hitems
    subst hitems
    cases h
    refine reflects_of_items fun f h => ?_
    simpa only [List.reverse_cons, List.foldlM_append, List.foldlM_cons, flagsBehind_repetition]
      using h

/-- A group that is opened keeps what stands before it. -/
theorem reflects_enter (r : Reading) (number : Option Nat) (change : FlagChange) :
    Reflects f r (r.enter number change) := by
  intro h
  obtain ⟨verbose, frames, branches, items, captures, names⟩ := r
  cases frames with
  | nil => exact h
  | cons g frames => exact h

theorem reflects_opened {o : Opening} (h : r.opened o = some r') : Reflects f r r' := by
  cases o with
  | flags change =>
    cases h
    exact reflects_of_items fun _ => isSome_of_cons
  | group change =>
    cases h
    exact reflects_enter r none change
  | capture name =>
    simp only [opened] at h
    split at h
    · cases h
    · cases h
      exact reflects_enter r (some (r.captures + 1)) []

theorem reflects_closed (h : r.closed = some r') : Reflects f r r' := by
  obtain ⟨verbose, frames, branches, items, captures, names⟩ := r
  cases frames with
  | nil => cases h
  | cons g frames =>
    cases h
    cases frames with
    | nil => exact isSome_contentOf_of_items fun _ => isSome_of_cons
    | cons g' frames => exact id

/-- A new branch. -/
theorem reflects_branch (r : Reading) :
    Reflects f r { r with branches := concatOf r.items :: r.branches, items := [] } := by
  intro h
  obtain ⟨verbose, frames, branches, items, captures, names⟩ := r
  unfold ground at h ⊢
  cases hlast : frames.getLast? with
  | none =>
    simp only [hlast, flagsBehind_branch] at h ⊢
    exact h
  | some g =>
    simp only [hlast] at h ⊢
    exact h

theorem reflects_make {m : Move} (h : r.make m = some r') : Reflects f r r' := by
  cases m with
  | push e =>
    cases h
    exact reflects_push r e
  | repetition min max marked => exact reflects_repeatMarked h
  | opening o => exact reflects_opened h
  | closing => exact reflects_closed h
  | branch =>
    cases h
    exact reflects_branch r

theorem reflects_step (h : r.step c cs = some (r', z)) : Reflects f r r' := by
  rw [step_eq] at h
  obtain ⟨m, -, hread⟩ := Option.bind_eq_some_iff.mp h
  obtain ⟨_, hmade, heq⟩ := Option.map_eq_some_iff.mp hread
  cases heq
  exact reflects_make hmade

/-- **What means nothing.** What has been read outside of all groups is part of what will have been
read in the end, so that means something only if this does. -/
theorem reflects_runs (h : r.runs cs = some r') : Reflects f r r' := by
  rw [runs] at h
  generalize cs.length + 1 = fuel at h
  induction fuel generalizing r cs with
  | zero => cases h
  | succ fuel ih =>
    rw [run] at h
    split at h
    · cases h
      exact id
    · obtain ⟨⟨r₁, z⟩, hstep, hrun⟩ := Option.bind_eq_some_iff.mp h
      exact fun hmeans => reflects_step hstep (ih hrun hmeans)

end Reading

end BinlogCursor.Pattern
