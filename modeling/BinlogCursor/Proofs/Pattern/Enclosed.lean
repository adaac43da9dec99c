/-
Patterns within a group. A text that is read by itself is read as the same with a closing
parenthesis and more behind it, within any groups, unless it ends in a comment, which then
goes on over the parenthesis (`Reading.enclosed`). The other way round, where a group is
closed in the end, the text up to the parenthesis that closes it is read by itself
(`Reading.exists_close`).
-/
import BinlogCursor.Proofs.Pattern.Reading

namespace BinlogCursor.Pattern.Reading

variable {s cs rest z : List Char} {r r' : Reading} {c : Char}

/-! ## The run of a reading -/

/-- Fuel beyond the characters of the text changes nothing. -/
theorem run_fuel {n m : Nat} (hn : cs.length < n) (hm : cs.length < m) :
    run n r cs = run m r cs := by
  induction n generalizing m r cs with
  | zero => omega
  | succ n ih =>
    obtain ⟨m, rfl⟩ : ∃ k, m = k + 1 := ⟨m - 1, by omega⟩
    have hle := (skipIgnored_suffix r.verbose cs).length_le
    rw [run, run]
    split
    · rfl
    · rename_i c rest hskip
      rw [hskip, List.length_cons] at hle
      simp only [Option.bind_eq_bind]
      cases hstep : r.step c rest with
      | none => rfl
      | some p =>
        have hlt := (step_suffix hstep).length_le
        exact ih (by omega) (by omega)

theorem runs_nil (h : skipIgnored r.verbose cs = []) : r.runs cs = some r := by
  rw [runs, run, h]

theorem runs_cons (h : skipIgnored r.verbose cs = c :: rest) :
    r.runs cs = (r.step c rest).bind fun p => p.1.runs p.2 := by
  have hle := (skipIgnored_suffix r.verbose cs).length_le
  rw [h, List.length_cons] at hle
  rw [runs, run, h]
  simp only [Option.bind_eq_bind]
  cases hstep : r.step c rest with
  | none => rfl
  | some p =>
    have hlt := (step_suffix hstep).length_le
    exact run_fuel (by omega) (by omega)

theorem runs_step {p : Reading × List Char} (h : skipIgnored r.verbose cs = c :: rest)
    (hstep : r.step c rest = some p) : r.runs cs = p.1.runs p.2 := by
  rw [runs_cons h, hstep, Option.bind_some]

/-! ## Reading within a group -/

theorem skipIgnored_close (verbose : Bool) (s : List Char) :
    skipIgnored verbose (')' :: s) = ')' :: s := by
  cases verbose <;> rfl

/-- The run within groups is that of the reading by itself, put within the groups step by step. -/
theorem runs_under (outer : List Frame) (h : skipIgnored r.verbose cs = c :: rest)
    (hframes : c = ')' → r.frames ≠ []) :
    (r.under outer).runs cs = (r.step c rest).bind fun p => (p.1.under outer).runs p.2 := by
  rw [runs_cons (r := r.under outer) h, step_under hframes, Option.bind_map]
  rfl

/-- By itself a text closes no group but those that it opens. -/
theorem step_close_eq_none (h : r.frames = []) (rest : List Char) : r.step ')' rest = none := by
  show r.closed.map _ = none
  rw [closed, h]
  rfl

/-- How a text that is read by itself is read within any groups with `')' :: s` behind it. -/
inductive Enclosed (r r' : Reading) (s cs : List Char) : Prop
  | whole (h : ∀ outer, (r.under outer).runs (cs ++ ')' :: s) = (r'.under outer).runs (')' :: s))
  | comment (h : skipComments true s = [] →
      ∀ outer, (r.under outer).runs (cs ++ ')' :: s) = some (r'.under outer))

/-- A text is read within groups as what is left of it behind a step. -/
theorem Enclosed.of_runs {r₁ : Reading} (hbehind : ∀ outer,
      (r.under outer).runs (cs ++ ')' :: s) = (r₁.under outer).runs (z ++ ')' :: s))
    (h : r₁.Enclosed r' s z) : r.Enclosed r' s cs := by
  cases h with
  | whole h => exact .whole fun o => (hbehind o).trans (h o)
  | comment h => exact .comment fun hs o => (hbehind o).trans (h hs o)

/-- Each step of the reading by itself is a step of the reading within groups, until the text ends,
by itself or in a comment. -/
theorem enclosed (s : List Char) (h : r.runs cs = some r') : r.Enclosed r' s cs := by
  induction hn : cs.length using Nat.strongRecOn generalizing r cs with
  | _ n ih =>
    cases skipIgnored_remains r.verbose s cs with
    | comment hz hz' =>
      obtain rfl := Option.some.inj ((runs_nil hz).symm.trans h)
      exact .comment fun hs outer => runs_nil (r := r.under outer) (hz'.trans hs)
    | same hz =>
      cases hskip : skipIgnored r.verbose cs with
      | nil =>
        rw [hskip] at hz
        obtain rfl := Option.some.inj ((runs_nil hskip).symm.trans h)
        refine .whole fun outer => ?_
        rw [runs_cons (r := r.under outer) hz, runs_cons (skipIgnored_close _ s)]
      | cons c rest =>
        rw [hskip, List.cons_append] at hz
        rw [runs_cons hskip] at h
        obtain ⟨⟨r₁, z⟩, hstep, h⟩ := Option.bind_eq_some_iff.mp h
        have hframes : c = ')' → r.frames ≠ [] := by
          rintro rfl hframes
          rw [step_close_eq_none hframes] at hstep
          cases hstep
        have hruns := fun outer => runs_under outer hz hframes
        rcases step_apart r c s rest with
          (⟨r₂, z₂, halone, hbehind⟩ | ⟨r₂, halone, hend, -⟩ | ⟨halone, -⟩) | ⟨_, -, halone, -⟩
        · cases halone.symm.trans hstep
          have hle := (step_suffix hstep).length_le
          have hlt := (skipIgnored_suffix r.verbose cs).length_le
          rw [hskip, List.length_cons] at hlt
          refine .of_runs (fun outer => ?_) (ih z.length (by omega) h rfl)
          rw [hruns, hbehind, Option.bind_some]
        · cases halone.symm.trans hstep
          obtain rfl := Option.some.inj ((runs_nil (skipIgnored_nil _)).symm.trans h)
          refine .comment fun hs outer => ?_
          rw [hruns, hend hs, Option.bind_some]
          exact runs_nil (skipIgnored_nil _)
        · cases halone.symm.trans hstep
        · cases halone.symm.trans hstep

/-! ## Groups that are closed -/

/-- A step that leaves more of a text than stands behind some parenthesis does not look behind
that, so that it is the same for the text before the parenthesis. -/
theorem step_before {x y : List Char} (h : r.step c (x ++ ')' :: s) = some (r', y ++ ')' :: s))
    (hy : (r'.runs y).isSome = true) : r.step c x = some (r', y) := by
  have hlong : ¬ (y ++ ')' :: s) <:+ s := fun hsuffix => by
    have hle := hsuffix.length_le
    simp only [List.length_append, List.length_cons] at hle
    omega
  rcases step_apart r c s x with
    (⟨r₂, z, halone, hbehind⟩ | ⟨r₂, -, -, hbehind⟩ | ⟨-, hbehind⟩) | ⟨inner, hblank, -, hbehind⟩
  · obtain ⟨rfl, hz⟩ := Prod.mk.inj (Option.some.inj (hbehind.symm.trans h))
    rw [halone, List.append_cancel_right hz]
  · exact absurd (hbehind _ _ h) hlong
  · exact absurd (hbehind _ _ h) hlong
  · -- A brace that is left behind a boundary cannot be read with only blanks behind it.
    obtain ⟨rfl, hz⟩ := Prod.mk.inj (Option.some.inj (hbehind.symm.trans h))
    have hskip : skipIgnored r.verbose ('\x7b' :: inner) = '\x7b' :: inner := by
      cases r.verbose <;> rfl
    have hrefused : readMove (r.push (.assertion .boundary)).verbose '\x7b' inner = none :=
      readMove_blank hblank
    rw [← List.append_cancel_right hz, runs_cons (r := r.push _) hskip, step_eq, hrefused] at hy
    cases hy

theorem skipIgnored_before {verbose : Bool} {x : List Char}
    (h : skipIgnored verbose (cs ++ ')' :: s) = x ++ ')' :: s) : skipIgnored verbose cs = x := by
  cases skipIgnored_remains verbose s cs with
  | same hz => exact List.append_cancel_right (hz.symm.trans h)
  | comment _ hz =>
    have hle := (skipComments_suffix true s).length_le
    rw [← hz, h] at hle
    simp only [List.length_append, List.length_cons] at hle
    omega

/-- Where a group is closed in the end, some parenthesis closes it, and what stands before that is
read by itself. -/
theorem exists_close {f : Frame} (h : (r.under [f]).runs cs = some r') (hframes : r'.frames = []) :
    ∃ body rest r₁, cs = body ++ ')' :: rest ∧ r.runs body = some r₁ ∧ r₁.frames = [] ∧
      ((r₁.under [f]).closed.bind fun r₂ => r₂.runs rest) = some r' := by
  induction hn : cs.length using Nat.strongRecOn generalizing r cs with
  | _ n ih =>
    have hunder : ∀ r : Reading, (r.under [f]).frames ≠ [] := fun r => by simp [under]
    cases hskip : skipIgnored r.verbose cs with
    | nil =>
      obtain rfl := Option.some.inj ((runs_nil (r := r.under [f]) hskip).symm.trans h)
      exact absurd hframes (hunder r)
    | cons c rest =>
      obtain ⟨ignored, rfl⟩ := hskip ▸ skipIgnored_suffix r.verbose cs
      by_cases hclose : c = ')' ∧ r.frames = []
      · obtain ⟨rfl, hr⟩ := hclose
        refine ⟨ignored, rest, r, rfl, runs_nil (skipIgnored_before (x := []) hskip), hr, ?_⟩
        rw [runs_cons (r := r.under [f]) hskip] at h
        rw [← h]
        show _ = ((r.under [f]).closed.map (·, rest)).bind _
        rw [Option.bind_map]
        rfl
      · rw [runs_under [f] hskip fun hc hr => hclose ⟨hc, hr⟩] at h
        obtain ⟨⟨r₂, z⟩, hstep, h⟩ := Option.bind_eq_some_iff.mp h
        have hle := (step_suffix hstep).length_le
        rw [List.length_append, List.length_cons] at hn
        obtain ⟨body, rest', r₁, rfl, hbody, hr₁, hrun⟩ := ih z.length (by omega) h rfl
        obtain ⟨taken, rfl⟩ := step_suffix hstep
        rw [← List.append_assoc] at hstep hskip ⊢
        refine ⟨ignored ++ c :: (taken ++ body), rest', r₁, by simp, ?_, hr₁, hrun⟩
        have hbefore : skipIgnored r.verbose (ignored ++ c :: (taken ++ body)) =
            c :: (taken ++ body) :=
          skipIgnored_before (s := rest') (by simpa using hskip)
        rw [runs_step hbefore (step_before hstep (by rw [hbody]; rfl)), hbody]

end BinlogCursor.Pattern.Reading
