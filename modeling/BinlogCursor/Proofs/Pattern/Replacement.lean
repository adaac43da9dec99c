/-
One part of a text in the place of another. An expression replaces another (`Expr.Replaces`) if it
means something wherever the other does, with the same flags behind it. What could have been read
instead of something, so that it replaces that, does so still when more is read behind it
(`Reading.Replaces.runs`).
-/
import BinlogCursor.Proofs.Pattern.Contents

namespace BinlogCursor.Pattern

/-- An expression means something wherever another does, with the same flags behind it, and may be
repeated if the other may. -/
structure Expr.Replaces (e d : Expr) : Prop where
  flags : ∀ f g, flagsBehind f d = some g → flagsBehind f e = some g
  repeated : ∀ change, e = .flags change → ∃ change', d = .flags change'

/-- The same group, open in the place of another. -/
structure Frame.Replaces (g h : Frame) : Prop where
  number : g.number.isSome = h.number.isSome
  change : g.change = h.change
  verbose : g.verbose = h.verbose
  branches : List.Forall₂ Expr.Replaces g.branches h.branches
  items : List.Forall₂ Expr.Replaces g.items h.items

/-- As much has been read, part by part in the place of others, with no other names. -/
structure Reading.Replaces (r q : Reading) : Prop where
  verbose : r.verbose = q.verbose
  frames : List.Forall₂ Frame.Replaces r.frames q.frames
  branches : List.Forall₂ Expr.Replaces r.branches q.branches
  items : List.Forall₂ Expr.Replaces r.items q.items
  names : r.names ⊆ q.names

/-! ## Expressions -/

namespace Expr.Replaces

variable {e d : Expr} {es ds branches branches' : List Expr} {f g : Flags}

theorem refl (e : Expr) : e.Replaces e :=
  ⟨fun _ _ h => h, fun change h => ⟨change, h⟩⟩

theorem foldlM (h : List.Forall₂ Expr.Replaces es ds) (hds : ds.foldlM flagsBehind f = some g) :
    es.foldlM flagsBehind f = some g := by
  induction h generalizing f with
  | nil => exact hds
  | cons he _ ih =>
    rw [List.foldlM_cons] at hds ⊢
    obtain ⟨k, hk, hds⟩ := Option.bind_eq_some_iff.mp hds
    exact Option.bind_eq_some_iff.mpr ⟨k, he.flags f k hk, ih hds⟩

theorem concatOf (h : List.Forall₂ Expr.Replaces es ds) :
    (concatOf es).Replaces (concatOf ds) where
  flags f g hg := by
    rw [flagsBehind_concatOf] at hg ⊢
    exact foldlM (List.rel_reverse h) hg
  repeated change he := by
    cases h with
    | nil => cases he
    | cons hhead htail =>
      cases htail with
      | nil => exact hhead.repeated change he
      | cons _ _ => cases he

theorem contentOf (hbranches : List.Forall₂ Expr.Replaces branches branches')
    (h : List.Forall₂ Expr.Replaces es ds) :
    (contentOf branches es).Replaces (contentOf branches' ds) where
  flags f g hg := by
    rw [flagsBehind_contentOf] at hg ⊢
    obtain ⟨k, hk, hg⟩ := Option.bind_eq_some_iff.mp hg
    exact Option.bind_eq_some_iff.mpr
      ⟨k, foldlM (List.rel_reverse hbranches) hk, foldlM (List.rel_reverse h) hg⟩
  repeated change he := by
    cases hbranches with
    | nil => exact (concatOf h).repeated change he
    | cons _ _ => cases he

theorem repetition (h : e.Replaces d) (min : Nat) (max : Option Nat) (marked : Bool) :
    (Expr.repetition e min max marked).Replaces (.repetition d min max marked) where
  flags f g hg := by
    rw [flagsBehind_repetition] at hg ⊢
    exact h.flags f g hg
  repeated _ he := nomatch he

theorem group (h : e.Replaces d) (change : FlagChange) :
    (Expr.group change e).Replaces (.group change d) where
  flags f g hg := by
    rw [flagsBehind_group] at hg ⊢
    obtain ⟨k, hk, rfl⟩ := Option.map_eq_some_iff.mp hg
    rw [h.flags _ k hk]
    rfl
  repeated _ he := nomatch he

/-- Whatever stands in a group may be left out. -/
theorem emptied (e : Expr) (change : FlagChange) :
    (Expr.group change .empty).Replaces (.group change e) where
  flags f g hg := by
    rw [flagsBehind_group] at hg ⊢
    obtain ⟨_, -, rfl⟩ := Option.map_eq_some_iff.mp hg
    rfl
  repeated _ he := nomatch he

theorem capture (h : e.Replaces d) (m n : Nat) :
    (Expr.capture m e).Replaces (.capture n d) where
  flags f g hg := by
    rw [flagsBehind_capture] at hg ⊢
    obtain ⟨k, hk, rfl⟩ := Option.map_eq_some_iff.mp hg
    rw [h.flags _ k hk]
    rfl
  repeated _ he := nomatch he

end Expr.Replaces

/-! ## Readings -/

namespace Reading.Replaces

variable {r q q' : Reading} {c : Char} {cs z : List Char}

theorem push (h : r.Replaces q) (e : Expr) : (r.push e).Replaces (q.push e) :=
  { h with items := .cons (.refl e) h.items }

theorem repeatMarked (h : r.Replaces q) {min : Nat} {max : Option Nat} {marked : Bool}
    (hq : q.repeatMarked min max marked = some q') :
    ∃ r', r.repeatMarked min max marked = some r' ∧ r'.Replaces q' := by
  unfold Reading.repeatMarked at hq
  split at hq
  · cases hq
  · cases hq
  · next d before hflags hitems =>
    cases hq
    obtain ⟨e, rest, he, hrest, heq⟩ := List.forall₂_cons_right_iff.mp (hitems ▸ h.items)
    refine ⟨{ r with items := .repetition e min max marked :: rest }, ?_,
      { h with items := .cons (he.repetition min max marked) hrest }⟩
    rw [Reading.repeatMarked, heq]
    cases e with
    | flags change =>
      obtain ⟨change', hd⟩ := he.repeated change rfl
      exact absurd hd (hflags change')
    | _ => rfl

theorem enter (h : r.Replaces q) {m n : Option Nat} (hmn : m.isSome = n.isSome)
    (change : FlagChange) : (r.enter m change).Replaces (q.enter n change) where
  verbose := by rw [Reading.enter, Reading.enter, h.verbose]
  frames := .cons ⟨hmn, rfl, h.verbose, h.branches, h.items⟩ h.frames
  branches := .nil
  items := .nil
  names := h.names

theorem opened (h : r.Replaces q) {o : Opening} (hq : q.opened o = some q') :
    ∃ r', r.opened o = some r' ∧ r'.Replaces q' := by
  cases o with
  | flags change =>
    cases hq
    refine ⟨_, rfl, { h.push (.flags change) with verbose := ?_ }⟩
    rw [h.verbose]
  | group change =>
    cases hq
    exact ⟨_, rfl, h.enter rfl change⟩
  | capture name =>
    simp only [Reading.opened] at hq ⊢
    split at hq
    · cases hq
    · next hname =>
      cases hq
      have hfree : ¬ name.any r.names.contains = true := by
        intro hany
        cases name with
        | none => cases hany
        | some n =>
          exact hname (List.contains_iff_mem.mpr (h.names (List.contains_iff_mem.mp hany)))
      have hentered := h.enter (m := some (r.captures + 1)) (n := some (q.captures + 1)) rfl []
      rw [if_neg hfree]
      exact ⟨_, rfl, { hentered with
        names := List.append_subset.mpr
          ⟨List.subset_append_left _ _, List.subset_append_of_subset_right _ h.names⟩ }⟩

theorem closed (h : r.Replaces q) (hq : q.closed = some q') :
    ∃ r', r.closed = some r' ∧ r'.Replaces q' := by
  rw [Reading.closed] at hq
  split at hq
  · cases hq
  · next g frames hframes =>
    cases hq
    obtain ⟨g', frames', hg, hframes', heq⟩ := List.forall₂_cons_right_iff.mp (hframes ▸ h.frames)
    have hcontent := Expr.Replaces.contentOf h.branches h.items
    rw [Reading.closed, heq]
    refine ⟨_, rfl, hg.verbose, hframes', hg.branches, .cons ?_ hg.items, h.names⟩
    cases hn : g.number with
    | none =>
      have hn' : g'.number = none := by
        rw [← Option.not_isSome_iff_eq_none, hg.number, hn]
        exact Bool.false_ne_true
      rw [hn', hg.change]
      exact hcontent.group g.change
    | some n =>
      obtain ⟨m, hm⟩ : ∃ m, g'.number = some m := by
        rw [← Option.isSome_iff_exists, hg.number, hn]
        rfl
      rw [hm]
      exact hcontent.capture m n

theorem branch (h : r.Replaces q) :
    { r with branches := concatOf r.items :: r.branches, items := [] }.Replaces
      { q with branches := concatOf q.items :: q.branches, items := [] } :=
  { h with branches := .cons (.concatOf h.items) h.branches, items := .nil }

theorem make (h : r.Replaces q) {m : Move} (hq : q.make m = some q') :
    ∃ r', r.make m = some r' ∧ r'.Replaces q' := by
  cases m with
  | push e =>
    cases hq
    exact ⟨_, rfl, h.push e⟩
  | repetition min max marked => exact h.repeatMarked hq
  | opening o => exact h.opened hq
  | closing => exact h.closed hq
  | branch =>
    cases hq
    exact ⟨_, rfl, h.branch⟩

/-- The next move does not depend on what has been read. -/
theorem step (h : r.Replaces q) (hq : q.step c cs = some (q', z)) :
    ∃ r', r.step c cs = some (r', z) ∧ r'.Replaces q' := by
  rw [step_eq] at hq ⊢
  obtain ⟨m, hmove, hread⟩ := Option.bind_eq_some_iff.mp hq
  obtain ⟨_, hmade, heq⟩ := Option.map_eq_some_iff.mp hread
  cases heq
  obtain ⟨r', hr', h'⟩ := h.make hmade
  rw [h.verbose, hmove, Option.bind_some, hr']
  exact ⟨r', rfl, h'⟩

/-- **Another part in its place.** What can be read behind something can be read behind what is in
its place. -/
theorem runs (h : r.Replaces q) (hq : q.runs cs = some q') :
    ∃ r', r.runs cs = some r' ∧ r'.Replaces q' := by
  rw [Reading.runs] at hq ⊢
  generalize cs.length + 1 = fuel at hq ⊢
  induction fuel generalizing r q cs with
  | zero => cases hq
  | succ fuel ih =>
    rw [run] at hq ⊢
    rw [h.verbose]
    cases hskip : skipIgnored q.verbose cs with
    | nil =>
      rw [hskip] at hq
      cases hq
      exact ⟨r, rfl, h⟩
    | cons c rest =>
      rw [hskip] at hq
      obtain ⟨⟨q₁, z⟩, hstep, hrun⟩ := Option.bind_eq_some_iff.mp hq
      obtain ⟨r₁, hr₁, h₁⟩ := h.step hstep
      obtain ⟨r', hr', h'⟩ := ih h₁ hrun
      exact ⟨r', Option.bind_eq_some_iff.mpr ⟨_, hr₁, hr'⟩, h'⟩

end Reading.Replaces

end BinlogCursor.Pattern
