/-
What the choice of servers does to the order of positions.

`compare_chosen`: when the set of one position lies within that of another, it still does after
servers have been left out; only, the sets may then be the same, and the snapshots decide.
`parted_of_patterns`: the servers that patterns keep and those that they leave out part every set.
`choice_keeps_order` puts both together with the filters that keep all servers there are.
-/
import BinlogCursor.Pattern
import BinlogCursor.Proofs.ComparisonDuality

namespace BinlogCursor

/-! ## Sets without some servers -/

namespace GtidSet

variable {g kept left : GtidSet} {keep : String → Bool} {server : String}

theorem ext_intervalsOf? {g h : GtidSet}
    (he : ∀ server, g.intervalsOf? server = h.intervalsOf? server) : g = h := by
  cases g
  cases h
  exact congrArg mk (TextMap.ext_get? he)

theorem intervalsOf?_restrict (g : GtidSet) (keep : String → Bool) (server : String) :
    (g.restrict keep).intervalsOf? server = if keep server then g.intervalsOf? server else none :=
  TextMap.get?_filter g.servers keep server

/-- Where all servers of a set are kept it stays as it is. -/
theorem restrict_eq_self
    (h : ∀ server, (g.intervalsOf? server).isSome = true → keep server = true) :
    g.restrict keep = g := by
  refine ext_intervalsOf? fun server => ?_
  rw [intervalsOf?_restrict]
  cases hs : g.intervalsOf? server with
  | none => simp
  | some s => rw [if_pos (h server (by simp [hs]))]

/-- Two sets share no server, and together they have the servers of a third, each with the same
intervals. -/
structure Parted (g kept left : GtidSet) : Prop where
  disjoint : ∀ server, kept.intervalsOf? server = none ∨ left.intervalsOf? server = none
  restored : ∀ server,
    (kept.intervalsOf? server).or (left.intervalsOf? server) = g.intervalsOf? server

theorem parted_restrict (g : GtidSet) (keep : String → Bool) :
    g.Parted (g.restrict keep) (g.restrict fun server => !keep server) where
  disjoint server := by
    simp only [intervalsOf?_restrict]
    cases keep server <;> simp
  restored server := by
    simp only [intervalsOf?_restrict]
    cases keep server <;> simp

end GtidSet

/-! ## Filters of patterns -/

namespace ServerFilter

variable [Pattern.Engine] {patterns : List String} {keep leave : ServerFilter}

/-- The filter that keeps just the servers which another leaves out. -/
def complement (f : ServerFilter) : ServerFilter :=
  ⟨fun server => !f.retains server⟩

theorem leavingOut_eq_map (patterns : List String) :
    leavingOut patterns = (keeping patterns).map complement := by
  unfold leavingOut keeping
  cases compilePatterns patterns <;> rfl

theorem leavingOut_eq_ok_iff : leavingOut patterns = .ok leave ↔
    ∃ keep, keeping patterns = .ok keep ∧ keep.complement = leave := by
  rw [leavingOut_eq_map, Outcome.map_ok_iff]

theorem parted_of_patterns (hkeep : keeping patterns = .ok keep)
    (hleave : leavingOut patterns = .ok leave) (g : GtidSet) :
    g.Parted (keep.apply g) (leave.apply g) := by
  obtain ⟨keep', hkeep', rfl⟩ := leavingOut_eq_ok_iff.1 hleave
  rw [hkeep, Except.ok.injEq] at hkeep'
  subst hkeep'
  exact g.parted_restrict keep.retains

end ServerFilter

namespace Comparison

open Position

variable {a b : Position} {g h : GtidSet} {s : Standing}

/-- The comparison in which only the servers count that a filter keeps. -/
def chosen (f : ServerFilter) : Comparison :=
  ⟨some f⟩

/-! ## Comparing what is left -/

/-- **Leaving servers out.** Of two positions, the one whose set lies within the other's stays
before it, unless the sets have become the same. -/
theorem compare_chosen (f : ServerFilter) (hg : a.gtids = some g) (hh : b.gtids = some h)
    (hwg : g.WellFormed) (hwh : h.WellFormed) (hw : g.isWithin h = true) :
    (chosen f).compare a b =
      .ok (if f.apply g = f.apply h then a.snapshotOrder b else .before) := by
  have hwithin : (f.apply g).isWithin (f.apply h) = true := GtidSet.isWithin_restrict hw f.retains
  have hag : (f.apply g).WellFormed := hwg.restrict f.retains
  have hah : (f.apply h).WellFormed := hwh.restrict f.retains
  rw [compare_of_gtids _ hg hh]
  show Except.ok (((f.apply g).order? (f.apply h)).elim .incomparable (a.orTie b)) = _
  by_cases hsame : f.apply g = f.apply h
  · have hback : (f.apply h).isWithin (f.apply g) = true := hsame ▸ GtidSet.isWithin_refl hag
    rw [GtidSet.order?_eq_some_eq_iff.2 ⟨hwithin, hback⟩, if_pos hsame]
    rfl
  · have hback : ¬ (f.apply h).isWithin (f.apply g) = true := fun hback =>
      hsame (GtidSet.isWithin_antisymm hag hah hwithin hback)
    rw [GtidSet.order?_eq_some_lt_iff.2 ⟨hwithin, hback⟩, if_neg hsame]
    rfl

theorem snapshotOrder_ne_incomparable (a b : Position) : a.snapshotOrder b ≠ .incomparable := by
  unfold snapshotOrder
  cases a.duringSnapshot <;> cases b.duringSnapshot <;> simp

theorem snapshotOrder_eq_after_iff (a b : Position) :
    a.snapshotOrder b = .after ↔ b.duringSnapshot = true ∧ a.duringSnapshot = false := by
  unfold snapshotOrder
  cases a.duringSnapshot <;> cases b.duringSnapshot <;> simp

/-- A position at or before another stays there, or the sets have become the same and a snapshot
brings the other before it. -/
theorem chosen_of_isLE (f : ServerFilter) (hg : a.gtids = some g) (hh : b.gtids = some h)
    (hwg : g.WellFormed) (hwh : h.WellFormed) (hs : unfiltered.compare a b = .ok s)
    (hle : s.isLE = true) :
    ∃ t, (chosen f).compare a b = .ok t ∧ t ≠ .incomparable ∧
      (t = .after ↔
        f.apply g = f.apply h ∧ b.duringSnapshot = true ∧ a.duringSnapshot = false) := by
  have hw : g.isWithin h = true := ((unfiltered.compare_some_some hg hh hle).1 hs).1
  refine ⟨_, compare_chosen f hg hh hwg hwh hw, ?_, ?_⟩
  · split
    · exact snapshotOrder_ne_incomparable a b
    · simp
  · split
    · next hsame => simp [snapshotOrder_eq_after_iff, hsame]
    · next hsame => simp [hsame]

/-- The same from the other side. -/
theorem chosen_of_reverse_isLE (f : ServerFilter) (hg : a.gtids = some g) (hh : b.gtids = some h)
    (hwg : g.WellFormed) (hwh : h.WellFormed) (hs : unfiltered.compare a b = .ok s)
    (hle : s.reverse.isLE = true) :
    ∃ t, (chosen f).compare a b = .ok t ∧ t ≠ .incomparable ∧
      (t = .before ↔
        f.apply g = f.apply h ∧ a.duringSnapshot = true ∧ b.duringSnapshot = false) := by
  have hback : unfiltered.compare b a = .ok s.reverse := by
    rcases unfiltered.compare_swap a b with ⟨r, hab, hba⟩ | ⟨hab, -⟩
    · rw [hs, Except.ok.injEq] at hab
      exact hab ▸ hba
    · rw [hs] at hab
      cases hab
  obtain ⟨t, ht, hne, hafter⟩ := chosen_of_isLE f hh hg hwh hwg hback hle
  rcases (chosen f).compare_swap b a with ⟨r, hba, hab⟩ | ⟨hba, -⟩
  · rw [ht, Except.ok.injEq] at hba
    subst hba
    refine ⟨t.reverse, hab, ?_, ?_⟩
    · cases t <;> simp_all [Standing.reverse]
    · rw [eq_comm (a := f.apply g), ← hafter]
      cases t <;> simp [Standing.reverse]
  · rw [ht] at hba
    cases hba

/-- Where a filter keeps all servers of both sets the answer is that without it. -/
theorem chosen_eq_unfiltered (f : ServerFilter) (hg : a.gtids = some g) (hh : b.gtids = some h)
    (hkept : ∀ server, (g.intervalsOf? server).isSome = true ∨
      (h.intervalsOf? server).isSome = true → f.retains server = true) :
    (chosen f).compare a b = unfiltered.compare a b := by
  have hag : (chosen f).restrict g = unfiltered.restrict g :=
    GtidSet.restrict_eq_self fun server hs => hkept server (.inl hs)
  have hah : (chosen f).restrict h = unfiltered.restrict h :=
    GtidSet.restrict_eq_self fun server hs => hkept server (.inr hs)
  rw [compare_of_gtids _ hg hh, compare_of_gtids _ hg hh, hag, hah]

/-- **Filtering is monotone.** Positions with sets that have an order keep it, whatever servers are
left out: one at or before another is so still, and one at or behind another too. The exception is
where the sets become the same, and the one that was behind stands within a snapshot and the other
does not: then it comes before. A filter that keeps all servers of both sets changes no answer. And
the servers that patterns keep and those that they leave out part every set. -/
theorem choice_keeps_order [Pattern.Engine] (f : ServerFilter) (ha : a.Parsed) (hb : b.Parsed)
    (hg : a.gtids = some g) (hh : b.gtids = some h) :
    (∀ s, unfiltered.compare a b = .ok s → s = .before ∨ s = .same →
      ∃ t, (chosen f).compare a b = .ok t ∧ t ≠ .incomparable ∧
        (t = .after ↔
          f.apply g = f.apply h ∧ b.duringSnapshot = true ∧ a.duringSnapshot = false)) ∧
      (∀ s, unfiltered.compare a b = .ok s → s = .after ∨ s = .same →
        ∃ t, (chosen f).compare a b = .ok t ∧ t ≠ .incomparable ∧
          (t = .before ↔
            f.apply g = f.apply h ∧ a.duringSnapshot = true ∧ b.duringSnapshot = false)) ∧
      ((∀ server, (g.intervalsOf? server).isSome = true ∨ (h.intervalsOf? server).isSome = true →
          f.retains server = true) →
        (chosen f).compare a b = unfiltered.compare a b) ∧
      ∀ patterns,
        ((∃ keep, ServerFilter.keeping patterns = .ok keep) ↔
          ∃ leave, ServerFilter.leavingOut patterns = .ok leave) ∧
        ∀ keep leave, ServerFilter.keeping patterns = .ok keep →
          ServerFilter.leavingOut patterns = .ok leave →
          ∀ set : GtidSet, set.Parted (keep.apply set) (leave.apply set) := by
  have hwg := ha.wellFormed g hg
  have hwh := hb.wellFormed h hh
  refine ⟨fun s hs hle => chosen_of_isLE f hg hh hwg hwh hs ?_,
    fun s hs hle => chosen_of_reverse_isLE f hg hh hwg hwh hs ?_,
    chosen_eq_unfiltered f hg hh, fun patterns => ⟨⟨?_, ?_⟩, fun keep leave hkeep hleave =>
      ServerFilter.parted_of_patterns hkeep hleave⟩⟩
  · rcases hle with rfl | rfl <;> rfl
  · rcases hle with rfl | rfl <;> rfl
  · rintro ⟨keep, hkeep⟩
    exact ⟨keep.complement, ServerFilter.leavingOut_eq_ok_iff.2 ⟨keep, hkeep, rfl⟩⟩
  · rintro ⟨leave, hleave⟩
    obtain ⟨keep, hkeep, -⟩ := ServerFilter.leavingOut_eq_ok_iff.1 hleave
    exact ⟨keep, hkeep⟩

/-- What was executed of a server `b` sets two positions apart, the later of which lies within a
snapshot. Without that server the later one comes first. -/
theorem choice_keeps_order_without_server :
    ∃ earlier later : Position, unfiltered.compare earlier later = .ok .before ∧
      (chosen ⟨fun server => server != "b"⟩).compare earlier later = .ok .after := by
  have hone := GtidSet.parse_text (g := ⟨TextMap.empty.insert "a" ⟨[⟨1, 3⟩]⟩⟩) (by decide)
  have htwo := GtidSet.parse_text
    (g := ⟨(TextMap.empty.insert "a" ⟨[⟨1, 3⟩]⟩).insert "b" ⟨[⟨9, 9⟩]⟩⟩) (by decide)
  refine ⟨afterFirst 3 false,
    { afterFirst 3 true with
      gtids := some ⟨(TextMap.empty.insert "a" ⟨[⟨1, 3⟩]⟩).insert "b" ⟨[⟨9, 9⟩]⟩⟩ },
    by decide, ?_⟩
  obtain ⟨hmonotone, -, -, -⟩ := choice_keeps_order ⟨fun server => server != "b"⟩
    (a := afterFirst 3 false)
    (b := { afterFirst 3 true with
      gtids := some ⟨(TextMap.empty.insert "a" ⟨[⟨1, 3⟩]⟩).insert "b" ⟨[⟨9, 9⟩]⟩⟩ })
    (fun g hg => by cases hg; exact ⟨_, hone⟩) (fun g hg => by cases hg; exact ⟨_, htwo⟩) rfl rfl
  obtain ⟨t, ht, -, hafter⟩ := hmonotone .before (by decide) (.inl rfl)
  rw [ht, hafter.2 (by decide)]

end Comparison

end BinlogCursor
