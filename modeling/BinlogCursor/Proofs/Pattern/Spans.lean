/-
What a regular expression matches, apart from how it is searched for: from which
place of a text it leads to which (`Regex.Spans`).
Main statements: the search over sets of places finds just these
(`Regex.leads_route`), so that an expression matches some part of a text if it
leads from some place to another (`Regex.isMatch_iff`), and expressions that
follow each other lead on from where the one before has led
(`Regex.spans_sequence`).
-/
import BinlogCursor.Pattern.Regex.Build
import BinlogCursor.Pattern.Regex.Match
import Mathlib.Data.Finset.Card
import Mathlib.Data.Nat.Bitwise

namespace BinlogCursor.Pattern

/-- A number of steps from one place to another. -/
def Steps (R : Nat → Nat → Prop) : Nat → Nat → Nat → Prop
  | 0, i, j => i = j
  | n + 1, i, j => ∃ k, R i k ∧ Steps R n k j

namespace Regex

/-- The character before a place. -/
def charBefore (text : List Char) : Nat → Option Char
  | 0 => none
  | i + 1 => text[i]?

mutual

/-- The expression matches the part of a text between two places. -/
def Spans (text : List Char) : Regex → Nat → Nat → Prop
  | .empty, i, j => i = j
  | .text chars, i, j => chars <+: text.drop i ∧ j = i + chars.length
  | .one c, i, j => (∃ ch ∈ text[i]?, c.ranges.contains ch = true) ∧ j = i + 1
  | .look l, i, j => l.holds (charBefore text i) text[i]? = true ∧ i = j
  | .rep body least most _, i, j =>
    ∃ n, least ≤ n ∧ (∀ m ∈ most, n ≤ max least m) ∧ Steps (Spans text body) n i j
  | .capture _ body, i, j => Spans text body i j
  | .seq parts, i, j => SpansAll text parts i j
  | .alt branches, i, j => SpansSome text branches i j

def SpansAll (text : List Char) : List Regex → Nat → Nat → Prop
  | [], i, j => i = j
  | r :: rest, i, j => ∃ k, Spans text r i k ∧ SpansAll text rest k j

def SpansSome (text : List Char) : List Regex → Nat → Nat → Prop
  | [], _, _ => False
  | r :: rest, i, j => Spans text r i j ∨ SpansSome text rest i j

end

end Regex

/-! ## Sets of places -/

/-- All places of a set are within a text of a length. -/
def Inside (length : Nat) (places : Places) : Prop :=
  ∀ i, places.testBit i = true → i ≤ length

/-- Applied to a set of places, a function gives all places to which these lead. -/
structure Leads (length : Nat) (step : Places → Places) (R : Nat → Nat → Prop) : Prop where
  testBit_iff : ∀ {places}, Inside length places → ∀ j,
    (step places).testBit j = true ↔ ∃ i, places.testBit i = true ∧ R i j
  inside : ∀ {i j}, i ≤ length → R i j → j ≤ length

variable {length : Nat} {step other : Places → Places} {R S : Nat → Nat → Prop}

theorem Inside.or {p q : Places} (hp : Inside length p) (hq : Inside length q) :
    Inside length (p ||| q) := by
  intro i hi
  rw [Nat.testBit_or, Bool.or_eq_true] at hi
  exact hi.elim (hp i) (hq i)

theorem or_testBit_iff {p q : Places} {i : Nat} :
    (p ||| q).testBit i = true ↔ p.testBit i = true ∨ q.testBit i = true := by
  rw [Nat.testBit_or, Bool.or_eq_true]

/-- Where a set takes no place from another, it holds all places of that other set. -/
theorem subset_of_or_eq {p q : Places} (h : p ||| q = p) {i : Nat} (hi : q.testBit i = true) :
    p.testBit i = true := by
  rw [← h, or_testBit_iff]
  exact Or.inr hi

theorem steps_add {m n i j : Nat} :
    Steps R (m + n) i j ↔ ∃ k, Steps R m i k ∧ Steps R n k j := by
  induction m generalizing i with
  | zero => simp [Steps]
  | succ m ih =>
    rw [Nat.succ_add]
    simp only [Steps, ih]
    constructor
    · rintro ⟨k, hik, l, hkl, hlj⟩
      exact ⟨l, ⟨k, hik, hkl⟩, hlj⟩
    · rintro ⟨l, ⟨k, hik, hkl⟩, hlj⟩
      exact ⟨k, hik, l, hkl, hlj⟩

theorem steps_one {i j : Nat} : Steps R 1 i j ↔ R i j := by
  simp [Steps]

namespace Leads

theorem step_inside (h : Leads length step R) {places : Places} (hp : Inside length places) :
    Inside length (step places) := by
  intro j hj
  obtain ⟨i, hi, hij⟩ := (h.testBit_iff hp j).mp hj
  exact h.inside (hp i hi) hij

theorem congr (h : Leads length step R) (hRS : ∀ i j, i ≤ length → (R i j ↔ S i j)) :
    Leads length step S where
  testBit_iff hp j := by
    rw [h.testBit_iff hp j]
    exact exists_congr fun i => and_congr_right fun hi => hRS i j (hp i hi)
  inside hi hS := h.inside hi ((hRS _ _ hi).mpr hS)

/-- The same under another reading of the function and of the relation. -/
theorem read_as (h : Leads length step R) (hstep : ∀ places, other places = step places)
    (hRS : ∀ i j, i ≤ length → (R i j ↔ S i j)) : Leads length other S := by
  rw [show other = step from funext hstep]
  exact h.congr hRS

theorem stay : Leads length (fun places => places) Eq where
  testBit_iff _ j := by simp
  inside hi h := h ▸ hi

theorem trans (h : Leads length step R) (h' : Leads length other S) :
    Leads length (fun places => other (step places)) fun i j => ∃ k, R i k ∧ S k j where
  testBit_iff hp j := by
    rw [h'.testBit_iff (h.step_inside hp)]
    simp only [h.testBit_iff hp]
    constructor
    · rintro ⟨k, ⟨i, hi, hik⟩, hkj⟩
      exact ⟨i, hi, k, hik, hkj⟩
    · rintro ⟨i, hi, k, hik, hkj⟩
      exact ⟨k, ⟨i, hi, hik⟩, hkj⟩
  inside hi := fun ⟨_, hik, hkj⟩ => h'.inside (h.inside hi hik) hkj

theorem nowhere : Leads length (fun _ => 0) fun _ _ => False where
  testBit_iff _ j := by simp
  inside _ h := h.elim

theorem either (h : Leads length step R) (h' : Leads length other S) :
    Leads length (fun places => step places ||| other places) fun i j => R i j ∨ S i j where
  testBit_iff hp j := by
    rw [or_testBit_iff, h.testBit_iff hp, h'.testBit_iff hp]
    simp only [and_or_left, exists_or]
  inside hi hij := hij.elim (h.inside hi) (h'.inside hi)

/-! ## Repeated steps -/

theorem inside_steps (h : Leads length step R) {n i j : Nat} (hi : i ≤ length)
    (hij : Steps R n i j) : j ≤ length := by
  induction n generalizing i with
  | zero => exact hij ▸ hi
  | succ n ih =>
    obtain ⟨k, hik, hkj⟩ := hij
    exact ih (h.inside hi hik) hkj

/-- A set that a step leaves as it is stays so over any number of steps. -/
theorem testBit_steps_of_fixed (h : Leads length step R) {places : Places}
    (hp : Inside length places) (hfix : step places = places) (n j : Nat) :
    places.testBit j = true ↔ ∃ i, places.testBit i = true ∧ Steps R n i j := by
  induction n generalizing j with
  | zero => simp [Steps]
  | succ n ih =>
    rw [ih j]
    simp only [Steps]
    constructor
    · rintro ⟨k, hk, hkj⟩
      rw [← hfix, h.testBit_iff hp] at hk
      obtain ⟨i, hi, hik⟩ := hk
      exact ⟨i, hi, k, hik, hkj⟩
    · rintro ⟨i, hi, k, hik, hkj⟩
      refine ⟨k, ?_, hkj⟩
      rw [← hfix, h.testBit_iff hp]
      exact ⟨i, hi, hik⟩

theorem iterate (h : Leads length step R) (n : Nat) :
    Leads length (Route.iterate step n) (Steps R n) where
  testBit_iff := by
    induction n with
    | zero => exact fun hp j => stay.testBit_iff hp j
    | succ n ih =>
      intro places hp j
      simp only [Route.iterate]
      split
      · rename_i hfix
        exact h.testBit_steps_of_fixed hp hfix (n + 1) j
      · rw [ih (h.step_inside hp)]
        simp only [h.testBit_iff hp, Steps]
        constructor
        · rintro ⟨k, ⟨i, hi, hik⟩, hkj⟩
          exact ⟨i, hi, k, hik, hkj⟩
        · rintro ⟨i, hi, k, hik, hkj⟩
          exact ⟨k, ⟨i, hi, hik⟩, hkj⟩
  inside := h.inside_steps

/-- A set to which a step adds nothing holds all that any number of steps leads to. -/
theorem testBit_of_steps (h : Leads length step R) {places : Places} (hp : Inside length places)
    (hclosed : places ||| step places = places) {n i j : Nat} (hi : places.testBit i = true)
    (hij : Steps R n i j) : places.testBit j = true := by
  induction n generalizing i with
  | zero => exact hij ▸ hi
  | succ n ih =>
    obtain ⟨k, hik, hkj⟩ := hij
    exact ih (subset_of_or_eq hclosed ((h.testBit_iff hp k).mpr ⟨i, hi, hik⟩)) hkj

theorem testBit_iff_of_closed (h : Leads length step R) {places : Places}
    (hp : Inside length places) (hclosed : places ||| step places = places) (j : Nat) :
    places.testBit j = true ↔ ∃ i, places.testBit i = true ∧ ∃ k, Steps R k i j := by
  constructor
  · intro hj
    exact ⟨j, hj, 0, rfl⟩
  · rintro ⟨i, hi, k, hij⟩
    exact h.testBit_of_steps hp hclosed hi hij

theorem within (h : Leads length step R) (n : Nat) :
    Leads length (Route.within step n) fun i j => ∃ k ≤ n, Steps R k i j where
  testBit_iff := by
    induction n with
    | zero => exact fun {places} hp j => by simp [Route.within, Steps]
    | succ n ih =>
      intro places hp j
      simp only [Route.within]
      split
      · rename_i hclosed
        constructor
        · intro hj
          exact ⟨j, hj, 0, Nat.zero_le _, rfl⟩
        · rintro ⟨i, hi, k, -, hij⟩
          exact h.testBit_of_steps hp hclosed hi hij
      · rw [ih (hp.or (h.step_inside hp))]
        simp only [or_testBit_iff, h.testBit_iff hp]
        constructor
        · rintro ⟨k, hk | ⟨i, hi, hik⟩, m, hm, hkj⟩
          · exact ⟨k, hk, m, by omega, hkj⟩
          · exact ⟨i, hi, m + 1, by omega, k, hik, hkj⟩
        · rintro ⟨i, hi, m, hm, hij⟩
          cases m with
          | zero => exact ⟨i, Or.inl hi, 0, by omega, hij⟩
          | succ m =>
            obtain ⟨k, hik, hkj⟩ := hij
            exact ⟨k, Or.inr ⟨i, hi, hik⟩, m, by omega, hkj⟩
  inside hi := fun ⟨_, _, hij⟩ => h.inside_steps hi hij

end Leads

/-! ## Steps without a bound -/

/-- The places of a text that a set holds. -/
def placesIn (length : Nat) (places : Places) : Finset Nat :=
  (Finset.range (length + 1)).filter fun i => places.testBit i = true

theorem mem_placesIn {places : Places} {i : Nat} :
    i ∈ placesIn length places ↔ i ≤ length ∧ places.testBit i = true := by
  rw [placesIn, Finset.mem_filter, Finset.mem_range, Nat.lt_succ_iff]

/-- A set that takes a place from another has more places then. -/
theorem card_placesIn_lt {p q : Places} (hq : Inside length q) (hne : p ||| q ≠ p) :
    (placesIn length p).card < (placesIn length (p ||| q)).card := by
  apply Finset.card_lt_card
  rw [Finset.ssubset_iff_of_subset]
  · by_contra hall
    push Not at hall
    refine hne (Nat.eq_of_testBit_eq fun i => ?_)
    rw [Bool.eq_iff_iff, or_testBit_iff]
    refine ⟨fun hi => hi.elim id fun hi => ?_, Or.inl⟩
    exact (mem_placesIn.mp (hall i (mem_placesIn.mpr ⟨hq i hi, or_testBit_iff.mpr (Or.inr hi)⟩))).2
  · intro i hi
    obtain ⟨hle, hi⟩ := mem_placesIn.mp hi
    exact mem_placesIn.mpr ⟨hle, or_testBit_iff.mpr (Or.inl hi)⟩

/-- Where every place of a text is in a set, nothing can be added. -/
theorem or_eq_of_card {p q : Places} (hq : Inside length q)
    (hcard : length + 1 ≤ (placesIn length p).card) : p ||| q = p := by
  by_contra hne
  have hlt := card_placesIn_lt hq hne
  have hle : (placesIn length (p ||| q)).card ≤ length + 1 := by
    simpa [placesIn] using (Finset.card_filter_le (Finset.range (length + 1))
      fun i => (p ||| q).testBit i = true)
  omega

namespace Leads

/-- With rounds enough, `saturate` finds what any number of steps leads to, and takes a step more
from there. Each round that goes on adds a place, so that the rounds that are left and the places
that are found are always as many as the text has, or more. -/
theorem saturate (h : Leads length step R) {n : Nat} {places : Places} (hp : Inside length places)
    (hn : length + 1 ≤ n + (placesIn length places).card) :
    ∃ found, Route.saturate step n places = (found, step found) ∧ Inside length found ∧
      ∀ j, found.testBit j = true ↔ ∃ i, places.testBit i = true ∧ ∃ k, Steps R k i j := by
  induction n generalizing places with
  | zero =>
    have hclosed := or_eq_of_card (p := places) (h.step_inside hp) (by omega)
    exact ⟨places, rfl, hp, h.testBit_iff_of_closed hp hclosed⟩
  | succ n ih =>
    simp only [Route.saturate]
    split
    · rename_i hclosed
      exact ⟨places, rfl, hp, h.testBit_iff_of_closed hp hclosed⟩
    · rename_i hne
      have hp' := hp.or (h.step_inside hp)
      have hlt := card_placesIn_lt (h.step_inside hp) hne
      obtain ⟨found, heq, hfound, hiff⟩ := ih hp' (by omega)
      refine ⟨found, heq, hfound, fun j => ?_⟩
      rw [hiff]
      simp only [or_testBit_iff, h.testBit_iff hp]
      constructor
      · rintro ⟨k, hk | ⟨i, hi, hik⟩, m, hkj⟩
        · exact ⟨k, hk, m, hkj⟩
        · exact ⟨i, hi, m + 1, k, hik, hkj⟩
      · rintro ⟨i, hi, m, hij⟩
        exact ⟨i, Or.inl hi, m, hij⟩

theorem anySteps (h : Leads length step R) :
    Leads length (fun places => (Route.saturate step (length + 1) places).1)
      fun i j => ∃ k, Steps R k i j where
  testBit_iff {places} hp j := by
    obtain ⟨found, heq, -, hiff⟩ := h.saturate (n := length + 1) hp (by omega)
    rw [heq, hiff]
  inside hi := fun ⟨_, hij⟩ => h.inside_steps hi hij

theorem someSteps (h : Leads length step R) :
    Leads length (fun places => (Route.saturate step (length + 1) places).2)
      fun i j => ∃ k, Steps R (k + 1) i j where
  testBit_iff {places} hp j := by
    obtain ⟨found, heq, hfound, hiff⟩ := h.saturate (n := length + 1) hp (by omega)
    rw [heq, h.testBit_iff hfound]
    simp only [hiff, steps_add, steps_one]
    constructor
    · rintro ⟨k, ⟨i, hi, n, hik⟩, hkj⟩
      exact ⟨i, hi, n, k, hik, hkj⟩
    · rintro ⟨i, hi, n, k, hik, hkj⟩
      exact ⟨k, ⟨i, hi, n, hik⟩, hkj⟩
  inside hi := fun ⟨_, hij⟩ => h.inside_steps hi hij

end Leads

/-! ## Characters and looks -/

namespace Regex

theorem testBit_two_mul_add {b x i : Nat} (hb : b < 2) :
    (b + 2 * x).testBit (i + 1) = x.testBit i := by
  rw [Nat.testBit_succ, show (b + 2 * x) / 2 = x by omega]

theorem testBit_charPlaces (kind : Char → Bool) (text : List Char) (i : Nat) :
    (charPlaces kind text).testBit i = true ↔ ∃ ch ∈ text[i]?, kind ch = true := by
  induction text generalizing i with
  | nil => simp [charPlaces]
  | cons c cs ih =>
    cases i with
    | zero => cases hk : kind c <;> simp [charPlaces, hk, Nat.testBit_zero]
    | succ i =>
      rw [charPlaces, testBit_two_mul_add (by split <;> omega), ih]
      simp

theorem testBit_lookPlaces (l : Look) (before : Option Char) (text : List Char) (i : Nat) :
    (lookPlaces l before text).testBit i = true ↔
      i ≤ text.length ∧ l.holds (if i = 0 then before else text[i - 1]?) text[i]? = true := by
  induction text generalizing before i with
  | nil =>
    cases i with
    | zero => cases hl : l.holds before none <;> simp [lookPlaces, hl]
    | succ i => cases hl : l.holds before none <;> simp [lookPlaces, hl, Nat.testBit_succ]
  | cons c cs ih =>
    cases i with
    | zero => cases hl : l.holds before (some c) <;> simp [lookPlaces, hl, Nat.testBit_zero]
    | succ i =>
      rw [lookPlaces, testBit_two_mul_add (by split <;> omega), ih]
      cases i <;> simp

/-- Over one character, from the places before characters of a kind. -/
theorem leads_over (kind : Char → Bool) (text : List Char) :
    Leads text.length (Route.reach text.length (.over (charPlaces kind text)))
      fun i j => (∃ ch ∈ text[i]?, kind ch = true) ∧ j = i + 1 where
  testBit_iff {places} _ j := by
    rw [Route.reach]
    cases j with
    | zero => simp
    | succ j =>
      rw [← Nat.zero_add (2 * _), testBit_two_mul_add (by omega), Nat.testBit_and,
        Bool.and_eq_true, testBit_charPlaces]
      simp only [Nat.add_right_cancel_iff]
      exact ⟨fun h => ⟨j, h.1, h.2, rfl⟩, fun ⟨i, hi, hk, e⟩ => e ▸ ⟨hi, hk⟩⟩
  inside := by
    rintro i j - ⟨⟨ch, hch, -⟩, rfl⟩
    exact (List.getElem?_eq_some_iff.mp hch).1

theorem leads_text (text chars : List Char) :
    Leads text.length
      (Route.reachAll text.length (chars.map fun c => .over (charPlaces (· == c) text)))
      fun i j => chars <+: text.drop i ∧ j = i + chars.length := by
  induction chars with
  | nil => exact Leads.stay.congr fun i j _ => by simp [eq_comm]
  | cons c cs ih =>
    refine ((leads_over (· == c) text).trans ih).congr fun i j _ => ?_
    constructor
    · rintro ⟨k, ⟨⟨ch, hch, hc⟩, rfl⟩, hcs, rfl⟩
      obtain rfl := eq_of_beq hc
      obtain ⟨hi, hch⟩ := List.getElem?_eq_some_iff.mp hch
      rw [List.drop_eq_getElem_cons hi, hch, List.length_cons]
      exact ⟨(List.cons_prefix_cons).mpr ⟨rfl, hcs⟩, by omega⟩
    · rintro ⟨hpre, rfl⟩
      have hi : i < text.length := by
        have := hpre.length_le
        simp only [List.length_cons, List.length_drop] at this
        omega
      rw [List.drop_eq_getElem_cons hi, List.cons_prefix_cons] at hpre
      refine ⟨i + 1, ⟨⟨c, ?_, by simp⟩, rfl⟩, hpre.2, by simp only [List.length_cons]; omega⟩
      exact List.getElem?_eq_some_iff.mpr ⟨hi, hpre.1.symm⟩

theorem leads_through (l : Look) (text : List Char) :
    Leads text.length (Route.reach text.length (.through (lookPlaces l none text)))
      fun i j => l.holds (charBefore text i) text[i]? = true ∧ i = j where
  testBit_iff {places} hp j := by
    have hbefore : (if j = 0 then none else text[j - 1]?) = charBefore text j := by
      cases j <;> rfl
    rw [Route.reach, Nat.testBit_and, Bool.and_eq_true, testBit_lookPlaces, hbefore]
    exact ⟨fun ⟨hj, _, hl⟩ => ⟨j, hj, hl, rfl⟩, fun ⟨i, hi, hl, e⟩ => e ▸ ⟨hi, hp i hi, hl⟩⟩
  inside hi h := h.2 ▸ hi

/-! ## Repetitions -/

theorem leads_rep {text : List Char} {body : Route}
    (h : Leads text.length (Route.reach text.length body) R) (least : Nat) (most : Option Nat) :
    Leads text.length (Route.reach text.length (.rep body least most))
      fun i j => ∃ n, least ≤ n ∧ (∀ m ∈ most, n ≤ max least m) ∧ Steps R n i j := by
  cases most with
  | some most =>
    refine ((h.iterate least).trans (h.within (most - least))).read_as
      (fun _ => by rw [Route.reach]) fun i j _ => ?_
    constructor
    · rintro ⟨k, hik, n, hn, hkj⟩
      refine ⟨least + n, by omega, ?_, steps_add.mpr ⟨k, hik, hkj⟩⟩
      rintro _ ⟨⟩
      omega
    · rintro ⟨n, hle, hmost, hij⟩
      have hn := hmost most rfl
      rw [show n = least + (n - least) by omega] at hij
      obtain ⟨k, hik, hkj⟩ := steps_add.mp hij
      exact ⟨k, hik, n - least, by omega, hkj⟩
  | none =>
    cases least with
    | zero =>
      exact h.anySteps.read_as (fun _ => by rw [Route.reach]) fun i j _ => by simp
    | succ least =>
      refine ((h.iterate least).trans h.someSteps).read_as
        (fun _ => by rw [Route.reach]) fun i j _ => ?_
      constructor
      · rintro ⟨k, hik, n, hkj⟩
        exact ⟨least + (n + 1), by omega, by simp, steps_add.mpr ⟨k, hik, hkj⟩⟩
      · rintro ⟨n, hle, -, hij⟩
        rw [show n = least + ((n - least - 1) + 1) by omega] at hij
        obtain ⟨k, hik, hkj⟩ := steps_add.mp hij
        exact ⟨k, hik, n - least - 1, hkj⟩

/-! ## The search -/

mutual

/-- The search follows an expression to just the places to which it leads. -/
theorem leads_route (text : List Char) : ∀ r : Regex,
    Leads text.length (Route.reach text.length (r.route text)) (Spans text r)
  | .empty =>
    Leads.stay.read_as (fun _ => by rw [route, Route.reach, Route.reachAll])
      fun _ _ _ => by rw [Spans]
  | .text chars =>
    (leads_text text chars).read_as (fun _ => by rw [route, Route.reach])
      fun _ _ _ => by rw [Spans]
  | .one c =>
    (leads_over c.ranges.contains text).read_as (fun _ => by rw [route]) fun _ _ _ => by rw [Spans]
  | .look l =>
    (leads_through l text).read_as (fun _ => by rw [route]) fun _ _ _ => by rw [Spans]
  | .rep body least most _ =>
    (leads_rep (leads_route text body) least most).read_as (fun _ => by rw [route])
      fun _ _ _ => by rw [Spans]
  | .capture _ body =>
    (leads_route text body).read_as (fun _ => by rw [route]) fun _ _ _ => by rw [Spans]
  | .seq parts =>
    (leads_routes_all text parts).read_as (fun _ => by rw [route, Route.reach])
      fun _ _ _ => by rw [Spans]
  | .alt branches =>
    (leads_routes_any text branches).read_as (fun _ => by rw [route, Route.reach])
      fun _ _ _ => by rw [Spans]

theorem leads_routes_all (text : List Char) : ∀ rs : List Regex,
    Leads text.length (Route.reachAll text.length (routes text rs)) (SpansAll text rs)
  | [] =>
    Leads.stay.read_as (fun _ => by rw [routes, Route.reachAll]) fun _ _ _ => by rw [SpansAll]
  | r :: rest =>
    ((leads_route text r).trans (leads_routes_all text rest)).read_as
      (fun _ => by rw [routes, Route.reachAll]) fun _ _ _ => by rw [SpansAll]

theorem leads_routes_any (text : List Char) : ∀ rs : List Regex,
    Leads text.length (Route.reachAny text.length (routes text rs)) (SpansSome text rs)
  | [] =>
    Leads.nowhere.read_as (fun _ => by rw [routes, Route.reachAny]) fun _ _ _ => by rw [SpansSome]
  | r :: rest =>
    ((leads_route text r).either (leads_routes_any text rest)).read_as
      (fun _ => by rw [routes, Route.reachAny]) fun _ _ _ => by rw [SpansSome]

end

theorem testBit_allPlaces (text : List Char) (i : Nat) :
    (allPlaces text).testBit i = true ↔ i ≤ text.length := by
  rw [allPlaces, Nat.pow_eq, Nat.testBit_two_pow_sub_one, decide_eq_true_iff]
  omega

/-- An expression matches some part of a text if it leads from some place of it to another. -/
theorem isMatch_iff (r : Regex) (text : String) :
    r.isMatch text = true ↔ ∃ i ≤ text.toList.length, ∃ j, Spans text.toList r i j := by
  have hall : Inside text.toList.length (allPlaces text.toList) :=
    fun i hi => (testBit_allPlaces _ i).mp hi
  have hleads := (leads_route text.toList r).testBit_iff hall
  simp only [testBit_allPlaces] at hleads
  rw [isMatch, bne_iff_ne]
  constructor
  · intro hne
    obtain ⟨j, hj⟩ := Nat.exists_testBit_of_ne_zero hne
    obtain ⟨i, hi, hij⟩ := (hleads j).mp hj
    exact ⟨i, hi, j, hij⟩
  · rintro ⟨i, hi, j, hij⟩ h0
    have hj := (hleads j).mpr ⟨i, hi, hij⟩
    rw [h0, Nat.zero_testBit] at hj
    exact Bool.noConfusion hj

/-! ## Sequences -/

theorem spansAll_append {text : List Char} {rs ss : List Regex} {i j : Nat} :
    SpansAll text (rs ++ ss) i j ↔ ∃ k, SpansAll text rs i k ∧ SpansAll text ss k j := by
  induction rs generalizing i with
  | nil => simp [SpansAll]
  | cons r rs ih =>
    simp only [List.cons_append, SpansAll, ih]
    constructor
    · rintro ⟨k, hik, l, hkl, hlj⟩
      exact ⟨l, ⟨k, hik, hkl⟩, hlj⟩
    · rintro ⟨l, ⟨k, hik, hkl⟩, hlj⟩
      exact ⟨k, hik, l, hkl, hlj⟩

theorem spansAll_parts {text : List Char} (r : Regex) {i j : Nat} :
    SpansAll text r.parts i j ↔ Spans text r i j := by
  cases r <;> simp [parts, SpansAll, Spans]

theorem spansAll_flatMap_parts {text : List Char} (rs : List Regex) {i j : Nat} :
    SpansAll text (rs.flatMap parts) i j ↔ SpansAll text rs i j := by
  induction rs generalizing i with
  | nil => rfl
  | cons r rs ih =>
    rw [List.flatMap_cons, spansAll_append, SpansAll]
    simp only [spansAll_parts, ih]

/-- Two texts that follow each other are one text. -/
theorem spans_text_append {text s t : List Char} {i j : Nat} :
    Spans text (.text (s ++ t)) i j ↔ ∃ k, Spans text (.text s) i k ∧ Spans text (.text t) k j := by
  simp only [Spans]
  constructor
  · rintro ⟨⟨rest, hrest⟩, rfl⟩
    refine ⟨i + s.length, ⟨⟨t ++ rest, ?_⟩, rfl⟩, ⟨rest, ?_⟩, ?_⟩
    · rw [← hrest, List.append_assoc]
    · rw [← List.drop_drop, ← hrest, List.append_assoc, List.drop_left]
    · rw [List.length_append, Nat.add_assoc]
  · rintro ⟨_, ⟨⟨rest, hs⟩, rfl⟩, ⟨more, ht⟩, rfl⟩
    refine ⟨⟨more, ?_⟩, ?_⟩
    · rw [← List.drop_drop, ← hs, List.drop_left] at ht
      rw [List.append_assoc, ht, hs]
    · rw [List.length_append, Nat.add_assoc]

theorem spansAll_joinTexts {text : List Char} (rs : List Regex) {i j : Nat} :
    SpansAll text (joinTexts rs) i j ↔ SpansAll text rs i j := by
  induction rs using joinTexts.induct generalizing i with
  | case1 => rfl
  | case2 s rest t rest' hjoin ih =>
    rw [joinTexts, hjoin]
    simp only [SpansAll, spans_text_append, ← ih, hjoin]
    constructor
    · rintro ⟨k, ⟨l, hil, hlk⟩, hkj⟩
      exact ⟨l, hil, k, hlk, hkj⟩
    · rintro ⟨l, hil, k, hlk, hkj⟩
      exact ⟨k, ⟨l, hil, hlk⟩, hkj⟩
  | case3 s rest hjoin ih =>
    rw [joinTexts]
    · simp only [SpansAll, ih]
  | case4 r rest hr ih =>
    rw [joinTexts]
    · simp only [SpansAll, ih]
    · exact hr

theorem spans_sequence {text : List Char} (rs : List Regex) {i j : Nat} :
    Spans text (sequence rs) i j ↔ SpansAll text rs i j := by
  rw [← spansAll_flatMap_parts, ← spansAll_joinTexts, sequence]
  split
  · rename_i h
    rw [h, Spans, SpansAll]
  · rename_i r h
    simp [h, SpansAll]
  · rw [Spans]

end Regex

end BinlogCursor.Pattern
