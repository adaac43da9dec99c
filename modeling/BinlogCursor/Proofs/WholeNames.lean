/-
Patterns for names match whole names, with any engine for regular expressions that keeps to the
laws. If all patterns keep to themselves (`Pattern.SelfContained`), filters and requests are refused
if one of them is no regular expression by itself, and else choose the names of which one of the
patterns matches all (`patterns_match_whole_names`). A pattern that ends in a comment takes the
marks into it, and one with a parenthesis that it has not opened leaves the group that is put around
it.
-/
import BinlogCursor.Proofs.FilteredOrder
import BinlogCursor.Proofs.Pattern.Standard
import BinlogCursor.Snapshot.Request

namespace BinlogCursor

namespace Pattern

/-! ## Lists of patterns -/

section Patterns

variable [Engine] {Spans : Engine.Compiled → List Char → Nat → Nat → Prop}
variable {patterns : List (List Char)} {α β : Type}

/-- Some pattern, by itself a regular expression, matches a name from its first character to its
last. -/
def MatchedWhole (Spans : Engine.Compiled → List Char → Nat → Nat → Prop)
    (patterns : List (List Char)) (name : String) : Prop :=
  ∃ p ∈ patterns, ∃ r, compile? p = some r ∧ Spans r name.toList 0 name.toList.length

/-- What becomes of patterns for names: they are refused if one of them is no regular expression by
itself, and else they choose the names of which one of them matches all. -/
structure ChoosesWhole (Spans : Engine.Compiled → List Char → Nat → Nat → Prop)
    (patterns : List (List Char)) (o : Outcome α) (names : α → String → Prop) : Prop where
  refused : o = .error .pattern ↔ ∃ p ∈ patterns, compile? p = none
  accepted : (∀ p ∈ patterns, (compile? p).isSome = true) → ∃ a, o = .ok a
  chosen : ∀ a, o = .ok a → ∀ name, names a name ↔ MatchedWhole Spans patterns name

theorem ChoosesWhole.map {o : Outcome α} {names : α → String → Prop} {names' : β → String → Prop}
    (h : ChoosesWhole Spans patterns o names) (f : α → β)
    (hf : ∀ a name, names' (f a) name ↔ names a name) :
    ChoosesWhole Spans patterns (o.map f) names' where
  refused := by
    rw [← h.refused]
    cases o <;> simp [Except.map]
  accepted hall := by
    obtain ⟨a, ha⟩ := h.accepted hall
    exact ⟨f a, by rw [ha]; rfl⟩
  chosen b hb name := by
    obtain ⟨a, ha, rfl⟩ := Outcome.map_ok_iff.mp hb
    rw [hf, h.chosen a ha]

theorem matchedWhole_cons {p : List Char} {r : Engine.Compiled} (hr : compile? p = some r)
    (name : String) : MatchedWhole Spans (p :: patterns) name ↔
      Spans r name.toList 0 name.toList.length ∨ MatchedWhole Spans patterns name := by
  simp only [MatchedWhole, List.exists_mem_cons_iff, hr, Option.some.injEq, exists_eq_left']

/-- One more pattern, which is a regular expression. -/
theorem ChoosesWhole.cons {p : List Char} {r r' : Engine.Compiled}
    {o : Outcome (List Engine.Compiled)}
    (h : ChoosesWhole Spans patterns o fun rs name => rs.any (Engine.isMatch · name) = true)
    (hr : compile? p = some r)
    (hmatch : ∀ name : String,
      Engine.isMatch r' name = true ↔ Spans r name.toList 0 name.toList.length) :
    ChoosesWhole Spans (p :: patterns) (o.map (r' :: ·))
      fun rs name => rs.any (Engine.isMatch · name) = true where
  refused := by
    rw [List.exists_mem_cons_iff, hr, or_iff_right (Option.some_ne_none r), ← h.refused]
    cases o <;> simp [Except.map]
  accepted hall := by
    obtain ⟨rs, hrs⟩ := h.accepted (List.forall_mem_cons.mp hall).2
    exact ⟨r' :: rs, by rw [hrs]; rfl⟩
  chosen rs heq name := by
    obtain ⟨rs', hrs', rfl⟩ := Outcome.map_ok_iff.mp heq
    rw [matchedWhole_cons hr, List.any_cons, Bool.or_eq_true, hmatch, h.chosen rs' hrs']

theorem chooses_mapM (laws : Engine.Lawful Spans) (h : ∀ p ∈ patterns, SelfContained p) :
    ChoosesWhole Spans patterns (patterns.mapM compileWhole) fun rs name =>
      rs.any (Engine.isMatch · name) = true := by
  induction patterns with
  | nil => exact ⟨by simp [pure, Except.pure], fun _ => ⟨[], rfl⟩, fun rs heq name => by
      cases heq
      simp [MatchedWhole]⟩
  | cons p patterns ih =>
    obtain ⟨hp, hrest⟩ := List.forall_mem_cons.mp h
    rw [List.mapM_cons]
    cases hcompile : compile? p with
    | none =>
      rw [compileWhole_of_none laws hp hcompile]
      refine ⟨⟨fun _ => ⟨p, List.mem_cons_self, hcompile⟩, fun _ => rfl⟩, fun hall => ?_, nofun⟩
      have hsome := hall p List.mem_cons_self
      rw [hcompile] at hsome
      cases hsome
    | some r =>
      obtain ⟨r', hr', hmatch⟩ := compileWhole_of_some laws hp hcompile
      have hmap : (do
          let r ← compileWhole p
          let rs ← patterns.mapM compileWhole
          pure (r :: rs)) = (patterns.mapM compileWhole).map (r' :: ·) := by
        rw [hr']
        cases patterns.mapM compileWhole <;> rfl
      rw [hmap]
      exact (ih hrest).cons hcompile hmatch

end Patterns

end Pattern

open Pattern

/-! ## Filters and requests -/

/-- The texts of patterns, without blanks around them. -/
def trimmed (patterns : List String) : List (List Char) :=
  patterns.map fun p => Text.trim p.toList

theorem ServerFilter.keeping_eq [Engine] (patterns : List String) :
    keeping patterns = ((trimmed patterns).mapM compileWhole).map fun regexes =>
      ⟨fun server => regexes.any (Engine.isMatch · server)⟩ := by
  rw [keeping, compilePatterns, trimmed, List.mapM_map]
  show (patterns.mapM (compileWhole ∘ fun p => Text.trim p.toList)) >>= _ = _
  cases patterns.mapM (compileWhole ∘ fun p => Text.trim p.toList) <;> rfl

theorem Snapshot.Request.ofSignal_eq [Engine] {s : Snapshot.Signal} (hkind : s.kind = .blocking)
    (hnamed : (trimmed s.collections).filter (!·.isEmpty) ≠ []) :
    Snapshot.Request.ofSignal s =
      (((trimmed s.collections).filter (!·.isEmpty)).mapM compileWhole).map fun patterns =>
        ⟨patterns, namedCollections s,
          TextMap.ofList (s.conditions.map fun c => (c.collection, c.filter))⟩ := by
  have hmapM : (namedCollections s).mapM (fun c => compileWhole c.toList) =
      ((trimmed s.collections).filter (!·.isEmpty)).mapM compileWhole := by
    simp only [namedCollections, trimmed, List.mapM_map, Function.comp_def, String.toList_ofList]
  have hne : ¬ (namedCollections s).isEmpty = true := by
    simpa [namedCollections, trimmed] using hnamed
  rw [ofSignal, if_neg (not_not_intro hkind)]
  simp only [if_neg hne, hmapM]
  cases ((trimmed s.collections).filter (!·.isEmpty)).mapM compileWhole <;> rfl

/-- **Whole names.** Patterns are matched against whole names, by filters for servers and by
requests for the collections that a signal names, of which blank ones are none. -/
theorem patterns_match_whole_names [Engine]
    {Spans : Engine.Compiled → List Char → Nat → Nat → Prop} (laws : Engine.Lawful Spans)
    (patterns : List String) (h : ∀ p ∈ trimmed patterns, SelfContained p) :
    ChoosesWhole Spans (trimmed patterns) (ServerFilter.keeping patterns)
        (fun f server => f.retains server = true) ∧
      ChoosesWhole Spans (trimmed patterns) (ServerFilter.leavingOut patterns)
        (fun f server => f.retains server = false) ∧
      ∀ s : Snapshot.Signal, s.kind = .blocking → s.collections = patterns →
        (trimmed patterns).filter (!·.isEmpty) ≠ [] →
        ChoosesWhole Spans ((trimmed patterns).filter (!·.isEmpty)) (Snapshot.Request.ofSignal s)
          (fun request collection => request.isWanted collection = true) := by
  have hkeeping : ChoosesWhole Spans (trimmed patterns) (ServerFilter.keeping patterns)
      fun f server => f.retains server = true := by
    rw [ServerFilter.keeping_eq]
    exact (chooses_mapM laws h).map _ fun regexes name => Iff.rfl
  refine ⟨hkeeping, ?_, fun s hkind hcollections hnamed => ?_⟩
  · rw [ServerFilter.leavingOut_eq_map]
    exact hkeeping.map _ fun f server => by rw [ServerFilter.complement, Bool.not_eq_false']
  · subst hcollections
    rw [Snapshot.Request.ofSignal_eq hkind hnamed]
    exact (chooses_mapM laws fun p hp => h p (List.mem_of_mem_filter hp)).map _
      fun regexes name => Iff.rfl


/-- Patterns that keep to themselves: two for servers and for collections, one that is refused. -/
theorem patterns_match_whole_names_of_alternatives :
    Engine.Lawful Built.Spans ∧
    (∃ f, ServerFilter.keeping ["ab|cd", " db[0-9]+ "] = .ok f ∧ ∀ server,
      f.retains server = true ↔
        MatchedWhole Built.Spans ["ab|cd".toList, "db[0-9]+".toList] server) ∧
    (∃ request, Snapshot.Request.ofSignal ⟨.blocking, ["ab|cd", " db[0-9]+ "], []⟩ = .ok request ∧
      ∀ collection, request.isWanted collection = true ↔
        MatchedWhole Built.Spans ["ab|cd".toList, "db[0-9]+".toList] collection) ∧
    ServerFilter.leavingOut ["ab)"] = .error .pattern := by
  have htrimmed : trimmed ["ab|cd", " db[0-9]+ "] = ["ab|cd".toList, "db[0-9]+".toList] := by
    decide +kernel
  have hnames : SelfContained "ab|cd".toList :=
    .of_isSome (p := "ab|cd".toList) rfl (fun _ => rfl) (by decide +kernel)
  have hnumbered : SelfContained "db[0-9]+".toList :=
    .of_isSome (p := "db[0-9]+".toList) rfl (fun _ => rfl) (by decide +kernel)
  have hcompile : ∀ p ∈ ["ab|cd".toList, "db[0-9]+".toList], (compile? p).isSome = true := by
    decide +kernel
  obtain ⟨hkeeping, -, hsignal⟩ :=
    patterns_match_whole_names standard_lawful ["ab|cd", " db[0-9]+ "] (by
      rw [htrimmed]
      exact List.forall_mem_cons.mpr ⟨hnames, List.forall_mem_singleton.mpr hnumbered⟩)
  have hrequest := hsignal ⟨.blocking, ["ab|cd", " db[0-9]+ "], []⟩ rfl rfl
    (by rw [htrimmed]; decide)
  rw [htrimmed] at hkeeping hrequest
  obtain ⟨f, hf⟩ := hkeeping.accepted hcompile
  obtain ⟨request, hr⟩ := hrequest.accepted hcompile
  refine ⟨standard_lawful, ⟨f, hf, hkeeping.chosen f hf⟩,
    ⟨request, hr, hrequest.chosen request hr⟩, ?_⟩
  have hextra : trimmed ["ab)"] = ["ab)".toList] := by decide +kernel
  have hwithin : StaysWithin "ab)".toList := by
    intro body rest hclosed _
    -- Its parenthesis is the last of its characters, and leaves the mark's with none to close.
    have hrest : rest = [] := by
      rcases body with _ | ⟨a, _ | ⟨b, _ | ⟨c, body⟩⟩⟩
      all_goals simp_all
    rw [hrest]
    rfl
  obtain ⟨-, hleaving, -⟩ := patterns_match_whole_names standard_lawful ["ab)"] (by
    rw [hextra]
    exact List.forall_mem_singleton.mpr (.of_eq_none rfl hwithin))
  rw [hextra] at hleaving
  exact hleaving.refused.mpr ⟨"ab)".toList, List.mem_singleton_self _, rfl⟩

/-- A pattern that is a regular expression by itself may be refused between the marks. -/
theorem not_all_patterns_match_whole_names :
    ¬ ∀ patterns : List String,
      ChoosesWhole Built.Spans (trimmed patterns) (ServerFilter.keeping patterns)
        fun f server => f.retains server = true := by
  intro h
  have htrimmed : trimmed ["(?x)a # the old replica"] = ["(?x)a # the old replica".toList] := by
    decide +kernel
  obtain ⟨f, hf⟩ := (h ["(?x)a # the old replica"]).accepted (by rw [htrimmed]; decide +kernel)
  have hrefused : compileWhole "(?x)a # the old replica".toList = .error .pattern :=
    compileWhole_of_comment (p := "(?x)a # the old replica".toList) rfl rfl
  rw [ServerFilter.keeping_eq, htrimmed, List.mapM_cons, hrefused] at hf
  cases hf

/-- One that is none by itself may be accepted, as two branches with one of the marks each. -/
example : (compile? "a)|(b".toList).isNone = true ∧
    (compileWhole "a)|(b".toList).toOption.any (Engine.isMatch · "axyz") = true := by
  decide +kernel

end BinlogCursor
