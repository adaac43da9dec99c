/-
The engine that the program runs with keeps the laws of regular expressions (`standard_lawful`). A
regular expression that ends in a comment it refuses between the marks (`compileWhole_of_comment`).

A group with marks around it is read part by part, whatever stands before it (`ReadAs`), so it means
what the meanings of its parts match one behind the other. What stands in a group is read by itself
as it is read there, and means something if the whole does (`isSome_of_behindGroup`). Without it the
whole is read as well (`isSome_emptied`).
-/
import BinlogCursor.Pattern
import BinlogCursor.Proofs.Pattern.Enclosed
import BinlogCursor.Proofs.Pattern.Laws
import BinlogCursor.Proofs.Pattern.Replacement

namespace BinlogCursor.Pattern

variable {cs s p : List Char} {e : Expr} {items : List Expr} {b : Built}

/-- The expression matches the part of a text between two of its places. -/
def Built.Spans (b : Built) (text : List Char) (i j : Nat) : Prop :=
  i ≤ text.length ∧ Regex.Spans text b.regex i j

theorem Built.ofText?_eq_some_iff : ofText? cs = some b ↔
    Expr.parse? cs = some b.expr ∧ ∃ f, meaning .initial b.expr = some (b.regex, f) := by
  obtain ⟨e, r⟩ := b
  simp only [ofText?, Option.bind_eq_bind, Option.bind_eq_some_iff]
  constructor
  · rintro ⟨e', he, ⟨r', f⟩, hr, hb⟩
    cases hb
    exact ⟨he, f, hr⟩
  · rintro ⟨he, f, hr⟩
    exact ⟨e, he, (r, f), hr, rfl⟩

theorem Built.isSome_ofText?_iff : (ofText? cs).isSome = true ↔
    ∃ e, Expr.parse? cs = some e ∧ (meaning .initial e).isSome = true := by
  simp only [Option.isSome_iff_exists, ofText?_eq_some_iff]
  constructor
  · rintro ⟨b, he, f, hr⟩
    exact ⟨b.expr, he, _, hr⟩
  · rintro ⟨e, he, ⟨r, f⟩, hr⟩
    exact ⟨⟨e, r⟩, he, f, hr⟩

theorem Expr.parse?_eq_some_iff : parse? cs = some e ↔
    ∃ r, Reading.start.runs cs = some r ∧ r.frames = [] ∧ contentOf r.branches r.items = e := by
  rw [parse?, Option.bind_eq_some_iff]
  refine exists_congr fun r => and_congr_right fun _ => ?_
  rw [Reading.finish]
  split <;> simp_all

/-! ## Reading part by part -/

namespace Reading

/-- Without a line end there is no end to a comment. -/
theorem skipComments_eq_nil (h : '\n' ∉ s) : skipComments true s = [] := by
  induction s with
  | nil => rfl
  | cons c s ih =>
    have hc : (c != '\n') = true := bne_iff_ne.mpr (List.ne_of_not_mem_cons h).symm
    simp [skipComments, hc, ih (List.not_mem_of_not_mem_cons h)]

/-- Outside of groups and with no flags set, a text is read as some parts behind what stands before
it, with any text behind it that ends no comment. -/
def ReadAs (cs : List Char) (items : List Expr) : Prop :=
  ∃ captures names, ∀ before s, '\n' ∉ s →
    runs ⟨false, [], [], before, 0, []⟩ (cs ++ s) =
      runs ⟨false, [], [], items.reverse ++ before, captures, names⟩ s

namespace ReadAs

theorem start (h : ReadAs cs items) : ReadAs ('^' :: cs) (.assertion .lineStart :: items) := by
  obtain ⟨captures, names, h⟩ := h
  refine ⟨captures, names, fun before s hs => ?_⟩
  have hstep : step ⟨false, [], [], before, 0, []⟩ '^' (cs ++ s) =
      some (⟨false, [], [], .assertion .lineStart :: before, 0, []⟩, cs ++ s) := rfl
  rw [List.cons_append, runs_step rfl hstep, h _ _ hs, List.reverse_cons, List.append_assoc,
    List.singleton_append]

theorem finish (h : ReadAs cs items) : ReadAs (cs ++ ['$']) (items ++ [.assertion .lineEnd]) := by
  obtain ⟨captures, names, h⟩ := h
  refine ⟨captures, names, fun before s hs => ?_⟩
  have hstep : step ⟨false, [], [], items.reverse ++ before, captures, names⟩ '$' s =
      some (⟨false, [], [], .assertion .lineEnd :: (items.reverse ++ before), captures, names⟩,
        s) := rfl
  have hdollar : '\n' ∉ '$' :: s := List.not_mem_cons_of_ne_of_not_mem (by decide) hs
  rw [List.append_assoc, List.singleton_append, h _ _ hdollar, runs_step rfl hstep,
    List.reverse_append, List.reverse_singleton, List.singleton_append, List.cons_append]

/-- A group is read as one part, unless its parenthesis is part of a comment. -/
theorem group (hp : Expr.parse? p = some e)
    (hends : ∀ s, Expr.parse? (p ++ ')' :: s) ≠ some e) : ReadAs (grouped p) [.group [] e] := by
  obtain ⟨r, hr, hframes, rfl⟩ := Expr.parse?_eq_some_iff.mp hp
  refine ⟨r.captures, r.names, fun before s hs => ?_⟩
  have hopen : step ⟨false, [], [], before, 0, []⟩ '(' ('?' :: ':' :: (p ++ ')' :: s)) =
      some (Reading.start.under [⟨none, [], false, [], before⟩], p ++ ')' :: s) := rfl
  have htext : grouped p ++ s = '(' :: '?' :: ':' :: (p ++ ')' :: s) := by simp [grouped]
  rw [htext, runs_step rfl hopen]
  cases enclosed s hr with
  | whole h =>
    rw [h, runs_cons (skipIgnored_close _ s)]
    show (((r.under _).closed).map (·, s)).bind _ = _
    simp only [closed, under, hframes]
    rfl
  | comment h =>
    -- By itself the pattern would be read with the parenthesis as part of its comment.
    refine absurd (Expr.parse?_eq_some_iff.mpr ⟨r, ?_, hframes, rfl⟩) (hends s)
    have hcomment := h (skipComments_eq_nil hs) []
    rwa [under_nil, under_nil] at hcomment

theorem parse?_eq (h : ReadAs cs items) : Expr.parse? cs = some (concatOf items.reverse) := by
  obtain ⟨captures, names, h⟩ := h
  have hruns := h [] [] List.not_mem_nil
  rw [List.append_nil, List.append_nil, runs_nil (skipIgnored_nil _)] at hruns
  exact Expr.parse?_eq_some_iff.mpr ⟨_, hruns, rfl, rfl⟩

/-- What is read as parts that mean something matches what these match one behind the other. -/
theorem ofText? (h : ReadAs cs items) {rs : List Regex} {f : Flags}
    (hrs : meanings .initial items = some (rs, f)) : ∃ b, Built.ofText? cs = some b ∧
      ∀ text i j, Regex.Spans text b.regex i j ↔ Regex.SpansAll text rs i j := by
  rw [← items.reverse_reverse] at hrs
  obtain ⟨r, hr, hspans⟩ := exists_meaning_concatOf hrs
  exact ⟨⟨_, r⟩, Built.ofText?_eq_some_iff.mpr ⟨h.parse?_eq, f, hr⟩, hspans⟩

theorem exists_meanings (h : ReadAs cs items) (hb : Built.ofText? cs = some b) :
    ∃ rs f, meanings .initial items = some (rs, f) ∧
      ∀ text i j, Regex.Spans text b.regex i j ↔ Regex.SpansAll text rs i j := by
  obtain ⟨he, f, hr⟩ := Built.ofText?_eq_some_iff.mp hb
  have hsome : (meaning .initial (concatOf items.reverse)).isSome =
      (meanings .initial items).isSome := by
    rw [← isSome_flagsBehind, flagsBehind_concatOf, List.reverse_reverse, ← map_snd_meanings,
      Option.isSome_map]
  rw [← Option.some.inj (he.symm.trans h.parse?_eq), hr] at hsome
  obtain ⟨⟨rs, f'⟩, hrs⟩ := Option.isSome_iff_exists.mp hsome.symm
  obtain ⟨b', hb', hspans⟩ := h.ofText? hrs
  obtain rfl := Option.some.inj (hb.symm.trans hb')
  exact ⟨rs, f', hrs, hspans⟩

end ReadAs

end Reading

open Reading

theorem meanings_mark (a : Assertion) :
    meanings .initial [.assertion a] = some ([.look (a.look .initial)], .initial) := rfl

theorem meanings_group (e : Expr) : meanings .initial [.group [] e] =
    (meaning .initial e).map fun m => ([m.1], .initial) := by
  rw [meanings_singleton, meaning]
  show Option.map _ ((meaning .initial e).bind _) = _
  cases meaning .initial e <;> rfl

theorem readAs_grouped (hb : Engine.build? p = some b) (hends : Ends p) :
    ReadAs (grouped p) [.group [] b.expr] := by
  obtain ⟨hp, f, hr⟩ := Built.ofText?_eq_some_iff.mp hb
  refine ReadAs.group hp fun s hs => ?_
  have hnone : Built.ofText? (p ++ ')' :: s) = none := hends s
  rw [Built.ofText?_eq_some_iff.mpr ⟨hs, f, hr⟩] at hnone
  cases hnone

/-- A group with marks around it is read part by part, and leaves no flags set. -/
theorem Framed.exists_readAs (h : Framed cs) : ∃ items, ReadAs cs items ∧
    ∀ rs f, meanings .initial items = some (rs, f) → f = .initial := by
  induction h with
  | @group p b built ends =>
    refine ⟨_, readAs_grouped built ends, fun rs f hrs => ?_⟩
    rw [meanings_group] at hrs
    obtain ⟨m, -, hrs⟩ := Option.map_eq_some_iff.mp hrs
    exact (Prod.mk.inj hrs).2.symm
  | start h ih =>
    obtain ⟨items, hread, hflags⟩ := ih
    refine ⟨_, hread.start, fun rs f hrs => ?_⟩
    obtain ⟨⟨rs', f'⟩, hrs', hf⟩ := Option.bind_eq_some_iff.mp hrs
    cases hf
    exact hflags rs' _ hrs'
  | finish h ih =>
    obtain ⟨items, hread, hflags⟩ := ih
    refine ⟨_, hread.finish, fun rs f hrs => ?_⟩
    rw [meanings_append] at hrs
    obtain ⟨⟨rs', f'⟩, hrs', hf⟩ := Option.bind_eq_some_iff.mp hrs
    obtain rfl := hflags rs' f' hrs'
    cases hf
    rfl

/-! ## The marks -/

namespace Regex

variable {text : List Char} {rs : List Regex} {i j : Nat}

theorem charBefore_eq_none_iff (hi : i ≤ text.length) : charBefore text i = none ↔ i = 0 := by
  cases i with
  | zero => simp [charBefore]
  | succ i =>
    simp only [charBefore, List.getElem?_eq_none_iff]
    omega

theorem spansAll_start (hi : i ≤ text.length) :
    SpansAll text (.look .textStart :: rs) i j ↔ i = 0 ∧ SpansAll text rs i j := by
  simp only [SpansAll, Spans, Look.holds, Option.isNone_iff_eq_none, charBefore_eq_none_iff hi]
  constructor
  · rintro ⟨k, ⟨h0, rfl⟩, hrs⟩
    exact ⟨h0, hrs⟩
  · rintro ⟨h0, hrs⟩
    exact ⟨i, ⟨h0, rfl⟩, hrs⟩

theorem spansAll_finish (hi : i ≤ text.length) :
    SpansAll text (rs ++ [.look .textEnd]) i j ↔ SpansAll text rs i j ∧ j = text.length := by
  simp only [spansAll_append, SpansAll, Spans, Look.holds, Option.isNone_iff_eq_none,
    List.getElem?_eq_none_iff]
  constructor
  · rintro ⟨k, hrs, _, ⟨hk, rfl⟩, rfl⟩
    have hle := (leads_routes_all text rs).inside hi hrs
    exact ⟨hrs, Nat.le_antisymm hle hk⟩
  · rintro ⟨hrs, rfl⟩
    exact ⟨_, hrs, _, ⟨Nat.le_refl _, rfl⟩, rfl⟩

end Regex

/-! ## The laws -/

/-- The group that is open behind the mark for the beginning. -/
def marked : Frame :=
  ⟨none, [], false, [], [.assertion .lineStart]⟩

theorem runs_marked (cs : List Char) :
    start.runs ("^(?:".toList ++ cs) = (start.under [marked]).runs cs := by
  have hcaret : start.step '^' ('(' :: '?' :: ':' :: cs) =
      some (start.push (.assertion .lineStart), '(' :: '?' :: ':' :: cs) := rfl
  have hopen : (start.push (.assertion .lineStart)).step '(' ('?' :: ':' :: cs) =
      some (start.under [marked], cs) := rfl
  show start.runs ('^' :: '(' :: '?' :: ':' :: cs) = _
  rw [runs_step rfl hcaret, runs_step rfl hopen]

/-- What has been read behind a group with the mark for the beginning before it. -/
def behindGroup (e : Expr) (captures : Nat) (names : List (List Char)) : Reading :=
  ⟨false, [], [], [.group [] e, .assertion .lineStart], captures, names⟩

theorem runs_emptied (cs : List Char) :
    start.runs ("^(?:)".toList ++ cs) = (behindGroup .empty 0 []).runs cs := by
  show start.runs ("^(?:".toList ++ ')' :: cs) = _
  have hclose : (start.under [marked]).step ')' cs = some (behindGroup .empty 0 [], cs) := rfl
  rw [runs_marked, runs_step (skipIgnored_close _ _) hclose]

section BehindGroup

variable {captures : Nat} {names : List (List Char)} {r : Reading}

/-- Where the whole means something, what stands in the group does. -/
theorem isSome_of_behindGroup (h : (behindGroup e captures names).runs cs = some r)
    (hframes : r.frames = []) (hmeans : (meaning .initial (contentOf r.branches r.items)).isSome) :
    (meaning .initial e).isSome = true := by
  have hground : (flagsBehind .initial r.ground).isSome = true := by
    rw [isSome_flagsBehind, ground, hframes]
    exact hmeans
  have hbefore : (flagsBehind .initial (contentOf [] [.group [] e, .assertion .lineStart])).isSome =
      true := reflects_runs h hground
  rw [flagsBehind_contentOf] at hbefore
  have hgroup : (flagsBehind .initial (.group [] e)).isSome = true :=
    Option.isSome_of_isSome_bind hbefore
  rwa [flagsBehind_group, Option.isSome_map, isSome_flagsBehind] at hgroup

/-- What is read behind the group is read without what stands in it as well. -/
theorem isSome_emptied (h : (behindGroup e captures names).runs cs = some r)
    (hframes : r.frames = []) (hmeans : (meaning .initial (contentOf r.branches r.items)).isSome) :
    (Built.ofText? ("^(?:)".toList ++ cs)).isSome = true := by
  have hemptied : (behindGroup .empty 0 []).Replaces (behindGroup e captures names) :=
    { verbose := rfl
      frames := .nil
      branches := .nil
      items := .cons (.emptied _ _) (.cons (.refl _) .nil)
      names := List.nil_subset _ }
  obtain ⟨r', hr', h'⟩ := hemptied.runs h
  rw [← runs_emptied] at hr'
  have hframes' : r'.frames = [] := List.forall₂_nil_right_iff.mp (hframes ▸ h'.frames)
  rw [← isSome_flagsBehind] at hmeans
  obtain ⟨f, hf⟩ := Option.isSome_iff_exists.mp hmeans
  refine Built.isSome_ofText?_iff.mpr ⟨_, Expr.parse?_eq_some_iff.mpr ⟨_, hr', hframes', rfl⟩, ?_⟩
  rw [← isSome_flagsBehind, (Expr.Replaces.contentOf h'.branches h'.items).flags _ f hf]
  rfl

end BehindGroup

/-- What stands in a group is read by itself as it is read there, and means something if the whole
does. Without it the whole is read as well. -/
theorem exists_inside (h : (Built.ofText? ("^(?:".toList ++ cs)).isSome = true) :
    ∃ body rest, cs = body ++ ')' :: rest ∧ (Built.ofText? body).isSome = true ∧
      (Built.ofText? ("^(?:)".toList ++ rest)).isSome = true := by
  obtain ⟨_, hparse, hmeans⟩ := Built.isSome_ofText?_iff.mp h
  obtain ⟨r', hruns, hframes, rfl⟩ := Expr.parse?_eq_some_iff.mp hparse
  rw [runs_marked] at hruns
  obtain ⟨body, rest, r, rfl, hbody, hr, hrest⟩ := exists_close hruns hframes
  have hclosed : (r.under [marked]).closed =
      some (behindGroup (contentOf r.branches r.items) r.captures r.names) := by
    simp only [closed, under, hr]
    rfl
  rw [hclosed, Option.bind_some] at hrest
  have hinner := isSome_of_behindGroup hrest hframes hmeans
  exact ⟨body, rest, rfl,
    Built.isSome_ofText?_iff.mpr ⟨_, Expr.parse?_eq_some_iff.mpr ⟨r, hbody, hr, rfl⟩, hinner⟩,
    isSome_emptied hrest hframes hmeans⟩

/-- **The laws hold.** -/
theorem standard_lawful : Engine.Lawful Built.Spans where
  search b text := by
    show b.regex.isMatch text = true ↔ _
    rw [Regex.isMatch_iff]
    constructor
    · rintro ⟨i, hi, j, hij⟩
      exact ⟨i, j, hi, hij⟩
    · rintro ⟨i, j, hi, hij⟩
      exact ⟨i, hi, j, hij⟩
  group cs b hb hends := by
    obtain ⟨hcs, f, hr⟩ := Built.ofText?_eq_some_iff.mp hb
    have hread : ReadAs (grouped cs) [.group [] b.expr] := readAs_grouped hb hends
    have hrs : meanings .initial [.group [] b.expr] = some ([b.regex], .initial) := by
      rw [meanings_group, hr]
      rfl
    obtain ⟨b', hb', hspans⟩ := hread.ofText? hrs
    refine ⟨b', hb', fun text i j => and_congr_right fun _ => ?_⟩
    simp [hspans, Regex.SpansAll]
  start cs b hframed hb := by
    obtain ⟨items, hread, -⟩ := hframed.exists_readAs
    obtain ⟨rs, f, hrs, hspans⟩ := hread.exists_meanings hb
    have hmarked : meanings .initial (.assertion .lineStart :: items) =
        some (.look .textStart :: rs, f) := by
      rw [← List.singleton_append, meanings_append, meanings_mark, Option.bind_some, hrs]
      rfl
    obtain ⟨b', hb', hspans'⟩ := hread.start.ofText? hmarked
    refine ⟨b', hb', fun text i j => ?_⟩
    simp only [Built.Spans, hspans, hspans']
    rw [and_left_comm]
    exact and_congr_right Regex.spansAll_start
  finish cs b hframed hb := by
    obtain ⟨items, hread, hflags⟩ := hframed.exists_readAs
    obtain ⟨rs, f, hrs, hspans⟩ := hread.exists_meanings hb
    obtain rfl := hflags rs f hrs
    have hmarked : meanings .initial (items ++ [.assertion .lineEnd]) =
        some (rs ++ [.look .textEnd], .initial) := by
      rw [meanings_append, hrs, Option.bind_some, meanings_mark]
      rfl
    obtain ⟨b', hb', hspans'⟩ := hread.finish.ofText? hmarked
    refine ⟨b', hb', fun text i j => ?_⟩
    simp only [Built.Spans, hspans, hspans', and_assoc]
    exact and_congr_right Regex.spansAll_finish
  inside _ := exists_inside

/-! ## Comments -/

/-- A regular expression that ends in a comment is refused, as the marks behind it are part of the
comment and leave the group open. -/
theorem compileWhole_of_comment (hp : (Built.ofText? p).isSome = true)
    (hcomment : (Built.ofText? (p ++ ")$".toList)).isSome = true) :
    compileWhole p = .error .pattern := by
  obtain ⟨_, hparse, -⟩ := Built.isSome_ofText?_iff.mp hp
  obtain ⟨r, hr, hframes, -⟩ := Expr.parse?_eq_some_iff.mp hparse
  obtain ⟨_, hparse', -⟩ := Built.isSome_ofText?_iff.mp hcomment
  obtain ⟨r', hr', -, -⟩ := Expr.parse?_eq_some_iff.mp hparse'
  have hnone : Engine.build? (anchored p) = none := by
    rw [← Option.not_isSome_iff_eq_none]
    intro hbuilt
    obtain ⟨_, hanchored, -⟩ := Built.isSome_ofText?_iff.mp hbuilt
    obtain ⟨r₁, hr₁, hclosed, -⟩ := Expr.parse?_eq_some_iff.mp hanchored
    rw [anchored, List.append_assoc, runs_marked] at hr₁
    cases enclosed ['$'] hr with
    | whole h =>
      -- Outside of all groups the parenthesis of the mark has none to close.
      have hbehind := h []
      rw [under_nil, under_nil, runs_cons (skipIgnored_close _ _),
        step_close_eq_none hframes] at hbehind
      cases hr'.symm.trans hbehind
    | comment h =>
      obtain rfl := Option.some.inj (hr₁.symm.trans (h rfl [marked]))
      simp [under] at hclosed
  rw [compileWhole, compile?, hnone]
  rfl

end BinlogCursor.Pattern
