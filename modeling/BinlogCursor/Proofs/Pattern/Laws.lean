/-
What is relied on of an engine for regular expressions, and what follows for patterns that are put
between the marks for the beginning and the end.

`Engine.Lawful` states the laws: what a group matches, what the marks match before and behind one,
what a search finds, and that a group holds a regular expression and may be emptied. None speaks of
the limits for nesting and size, which are the engine's own. A pattern that keeps to itself
(`SelfContained`) is then accepted between the marks just if it is by itself
(`compileWhole_of_none`, `compileWhole_of_some`), and matches a name if by itself it matches all of
it.
-/
import BinlogCursor.Pattern.Engine

namespace BinlogCursor.Pattern

/-! ## Laws of regular expressions -/

/-- A text in a group that is not numbered. -/
def grouped (cs : List Char) : List Char :=
  "(?:".toList ++ cs ++ [')']

theorem anchored_eq (p : List Char) : anchored p = '^' :: (grouped p ++ ['$']) := by
  simp [anchored, grouped]

/-- The group is closed by the parenthesis of the mark or by one of the pattern. -/
theorem closed_cases {p body rest : List Char} (h : p ++ ")$".toList = body ++ ')' :: rest) :
    p = body ∨ ∃ more, p = body ++ ')' :: more ∧ rest = more ++ ")$".toList := by
  rcases List.append_eq_append_iff.mp h with ⟨more, rfl, hmore⟩ | ⟨more, rfl, hmore⟩
  · cases more with
    | nil => exact .inl (List.append_nil p).symm
    | cons c more =>
      rw [show ")$".toList = [')', '$'] from rfl, List.cons_append] at hmore
      obtain ⟨-, hmore⟩ := List.cons.inj hmore
      cases more <;> simp at hmore
  · cases more with
    | nil => exact .inl (List.append_nil body)
    | cons c more =>
      obtain ⟨rfl, hrest⟩ := List.cons.inj hmore
      exact .inr ⟨more, rfl, hrest⟩

variable [Engine]

/-- A closing parenthesis behind the text is one too many, whatever follows it. So the text does
not end in a comment, which the parenthesis would be part of. -/
def Ends (cs : List Char) : Prop :=
  ∀ rest, Engine.build? (cs ++ ')' :: rest) = none

/-- A group with marks for the beginning before it and marks for the end behind it. -/
inductive Framed : List Char → Prop
  | group {cs : List Char} {r : Engine.Compiled} (built : Engine.build? cs = some r)
      (ends : Ends cs) : Framed (grouped cs)
  | start {cs : List Char} (h : Framed cs) : Framed ('^' :: cs)
  | finish {cs : List Char} (h : Framed cs) : Framed (cs ++ ['$'])

/-- An engine keeps to how regular expressions are written and to what they match, which is the part
of a text from one place to another. -/
structure Engine.Lawful (Spans : Engine.Compiled → List Char → Nat → Nat → Prop) : Prop where
  /-- A search finds a match wherever in the text there is one. -/
  search : ∀ r (text : String),
    Engine.isMatch r text = true ↔ ∃ i j, Spans r text.toList i j
  /-- A regular expression may be put in a group, which matches what the expression does. -/
  group : ∀ cs r, Engine.build? cs = some r → Ends cs →
    ∃ r', Engine.build? (grouped cs) = some r' ∧ ∀ text i j, Spans r' text i j ↔ Spans r text i j
  /-- The mark for the beginning matches at the first place of a text, and nowhere else. -/
  start : ∀ cs r, Framed cs → Engine.build? cs = some r →
    ∃ r', Engine.build? ('^' :: cs) = some r' ∧
      ∀ text i j, Spans r' text i j ↔ i = 0 ∧ Spans r text i j
  /-- The mark for the end matches at the last place of a text, and nowhere else. -/
  finish : ∀ cs r, Framed cs → Engine.build? cs = some r →
    ∃ r', Engine.build? (cs ++ ['$']) = some r' ∧
      ∀ text i j, Spans r' text i j ↔ Spans r text i j ∧ j = text.length
  /-- What stands in a group, up to the parenthesis that closes it, is a regular expression, and may
  be left out. -/
  inside : ∀ cs, (Engine.build? ("^(?:".toList ++ cs)).isSome = true →
    ∃ body rest, cs = body ++ ')' :: rest ∧ (Engine.build? body).isSome = true ∧
      (Engine.build? ("^(?:)".toList ++ rest)).isSome = true

/-! ## Patterns between the marks -/

variable {Spans : Engine.Compiled → List Char → Nat → Nat → Prop} {p : List Char}
variable {r : Engine.Compiled}

/-- What is a regular expression by itself is one between the marks, and then matches the texts of
which it matches all. -/
theorem build?_anchored (laws : Engine.Lawful Spans) (hr : Engine.build? p = some r)
    (hends : Ends p) : ∃ r', Engine.build? (anchored p) = some r' ∧
      ∀ text i j, Spans r' text i j ↔ i = 0 ∧ Spans r text i j ∧ j = text.length := by
  have hgroup : Framed (grouped p) := .group hr hends
  obtain ⟨g, hg, hspans⟩ := laws.group p r hr hends
  obtain ⟨g', hg', hspans'⟩ := laws.finish _ g hgroup hg
  obtain ⟨r', hr', hspans''⟩ := laws.start _ g' hgroup.finish hg'
  refine ⟨r', by rw [anchored_eq, hr'], fun text i j => ?_⟩
  rw [hspans'', hspans', hspans]

/-- The text stays within the group put around it. A parenthesis of its own may close the group only
where the one of the mark then has none to close, so that what stands behind the group is refused,
even if nothing stands in it. -/
def StaysWithin (p : List Char) : Prop :=
  ∀ body rest, p = body ++ ')' :: rest → (Engine.build? body).isSome = true →
    Engine.build? ("^(?:)".toList ++ (rest ++ ")$".toList)) = none

/-- What is no regular expression is none between the marks either, if it stays within the group. -/
theorem build?_anchored_eq_none (laws : Engine.Lawful Spans) (hnone : Engine.build? p = none)
    (hwithin : StaysWithin p) : Engine.build? (anchored p) = none := by
  rw [Option.eq_none_iff_forall_ne_some]
  intro r' hr'
  have hsome : (Engine.build? ("^(?:".toList ++ (p ++ ")$".toList))).isSome = true := by
    rw [← List.append_assoc]
    exact Option.isSome_of_eq_some hr'
  obtain ⟨body, rest, hclosed, hbody, hempty⟩ := laws.inside _ hsome
  rcases closed_cases hclosed with rfl | ⟨more, rfl, rfl⟩
  · rw [hnone] at hbody
    cases hbody
  · rw [hwithin body more rfl hbody] at hempty
    cases hempty

/-- A pattern that keeps to itself between the marks: it stays within the group if it is no regular
expression, does not end in a comment if it is one, and is not moved over a limit by the marks. -/
structure SelfContained (p : List Char) : Prop where
  within : Engine.build? p = none → StaysWithin p
  ends : (Engine.build? p).isSome = true → Ends p
  fits : ∀ r r', Engine.build? p = some r → Engine.build? (anchored p) = some r' →
    Engine.fits r' = Engine.fits r

theorem SelfContained.of_isSome (h : (Engine.build? p).isSome = true) (hends : Ends p)
    (hfits : (Engine.build? (anchored p)).map Engine.fits = (Engine.build? p).map Engine.fits) :
    SelfContained p where
  within hnone := by
    rw [hnone] at h
    cases h
  ends _ := hends
  fits r r' hr hr' := by
    rw [hr, hr'] at hfits
    exact Option.some.inj hfits

theorem SelfContained.of_eq_none (hnone : Engine.build? p = none) (hwithin : StaysWithin p) :
    SelfContained p where
  within _ := hwithin
  ends hsome := by
    rw [hnone] at hsome
    cases hsome
  fits r r' hr _ := by
    rw [hnone] at hr
    cases hr

theorem compile?_eq_some_iff :
    compile? p = some r ↔ Engine.build? p = some r ∧ Engine.fits r = true := by
  rw [compile?, Option.filter_eq_some_iff]

theorem compileWhole_of_none (laws : Engine.Lawful Spans) (h : SelfContained p)
    (hnone : compile? p = none) : compileWhole p = .error .pattern := by
  have hanchored : compile? (anchored p) = none := by
    rw [Option.eq_none_iff_forall_ne_some]
    intro r' hr'
    obtain ⟨hr', hfits⟩ := compile?_eq_some_iff.mp hr'
    cases hp : Engine.build? p with
    | none =>
      rw [build?_anchored_eq_none laws hp (h.within hp)] at hr'
      cases hr'
    | some r =>
      rw [h.fits r r' hp hr'] at hfits
      rw [compile?_eq_some_iff.mpr ⟨hp, hfits⟩] at hnone
      cases hnone
  rw [compileWhole, hanchored]

theorem compileWhole_of_some (laws : Engine.Lawful Spans) (h : SelfContained p)
    (hsome : compile? p = some r) : ∃ r', compileWhole p = .ok r' ∧ ∀ name : String,
      Engine.isMatch r' name = true ↔ Spans r name.toList 0 name.toList.length := by
  obtain ⟨hr, hfits⟩ := compile?_eq_some_iff.mp hsome
  obtain ⟨r', hr', hspans⟩ := build?_anchored laws hr (h.ends (Option.isSome_of_eq_some hr))
  have hanchored : compile? (anchored p) = some r' :=
    compile?_eq_some_iff.mpr ⟨hr', (h.fits r r' hr hr').trans hfits⟩
  refine ⟨r', by rw [compileWhole, hanchored], fun name => ?_⟩
  rw [laws.search]
  constructor
  · rintro ⟨i, j, hij⟩
    obtain ⟨rfl, hwhole, rfl⟩ := (hspans _ i j).mp hij
    exact hwhole
  · exact fun hwhole => ⟨0, _, (hspans _ 0 _).mpr ⟨rfl, hwhole, rfl⟩⟩

end BinlogCursor.Pattern
