/-
Outcomes opened up: when a sequence of steps that may fail succeeds, each of them
did (`bind_ok_iff`, `mapM_ok_iff`). When it fails, one of them did (`FailsWith.bind`), and of many
there is a first (`forall_ok_or_first_error`).
-/
import BinlogCursor.Fault
import Mathlib.Data.List.Forall2

namespace BinlogCursor

namespace Outcome

/-! ## Success -/

theorem bind_ok_iff {α β : Type} {x : Outcome α} {f : α → Outcome β} {b : β} :
    (x >>= f) = .ok b ↔ ∃ a, x = .ok a ∧ f a = .ok b := by
  cases x <;> simp [bind, Except.bind]

theorem pure_ok_iff {α : Type} {a b : α} : (pure a : Outcome α) = .ok b ↔ a = b := by
  simp [pure, Except.pure]

theorem map_ok_iff {α β : Type} {x : Outcome α} {f : α → β} {b : β} :
    x.map f = .ok b ↔ ∃ a, x = .ok a ∧ f a = b := by
  cases x <;> simp [Except.map]

/-- A map succeeds when it does on each element. -/
theorem mapM_ok_iff {α β : Type} {f : α → Outcome β} {l : List α} {r : List β} :
    l.mapM f = .ok r ↔ List.Forall₂ (fun a b => f a = .ok b) l r := by
  induction l generalizing r with
  | nil =>
    rw [List.mapM_nil, pure_ok_iff, List.forall₂_nil_left_iff]
    exact eq_comm
  | cons a l ih =>
    simp only [List.mapM_cons, bind_ok_iff, pure_ok_iff, List.forall₂_cons_left_iff, ih]
    constructor
    · rintro ⟨b, hb, r', hr', rfl⟩
      exact ⟨b, r', hb, hr', rfl⟩
    · rintro ⟨b, r', hb, hr', rfl⟩
      exact ⟨b, hb, r', hr', rfl⟩

/-! ## Failure -/

/-- Either there is an answer for each element, or there is a first one for which there is none. -/
theorem forall_ok_or_first_error {α β : Type} (f : α → Outcome β) (l : List α) :
    (∀ a ∈ l, ∃ b, f a = .ok b) ∨ ∃ before a after e,
      l = before ++ a :: after ∧ (∀ a' ∈ before, ∃ b, f a' = .ok b) ∧ f a = .error e := by
  induction l with
  | nil => exact .inl fun a ha => absurd ha List.not_mem_nil
  | cons a l ih =>
    cases ha : f a with
    | error e => exact .inr ⟨[], a, l, e, rfl, fun a' ha' => absurd ha' List.not_mem_nil, ha⟩
    | ok b =>
      rcases ih with hall | ⟨before, x, after, e, rfl, hb, hx⟩
      · exact .inl (List.forall_mem_cons.2 ⟨⟨b, ha⟩, hall⟩)
      · exact .inr ⟨a :: before, x, after, e, rfl, List.forall_mem_cons.2 ⟨⟨b, ha⟩, hb⟩, hx⟩

variable {α β : Type} {P : Fault → Prop}

/-- If there is no answer, that has a cause of some kind. -/
def FailsWith (P : Fault → Prop) (x : Outcome α) : Prop :=
  ∀ e, x = .error e → P e

theorem failsWith_ok (a : α) : FailsWith P (.ok a : Outcome α) := by
  intro e he
  cases he

theorem failsWith_error {e : Fault} (h : P e) : FailsWith P (.error e : Outcome α) := by
  intro e' he
  cases he
  exact h

theorem FailsWith.bind {x : Outcome α} {f : α → Outcome β} (hx : FailsWith P x)
    (hf : ∀ a, FailsWith P (f a)) : FailsWith P (x >>= f) := by
  cases x with
  | error e => exact failsWith_error (hx e rfl)
  | ok a => exact hf a

theorem FailsWith.mapM {f : α → Outcome β} {l : List α} (hf : ∀ a ∈ l, FailsWith P (f a)) :
    FailsWith P (l.mapM f) := by
  induction l with
  | nil => exact failsWith_ok []
  | cons a l ih =>
    rw [List.mapM_cons]
    refine (hf a (by simp)).bind fun b => FailsWith.bind (ih fun a' ha' => hf a' (by simp [ha'])) ?_
    exact fun r => failsWith_ok (b :: r)

theorem FailsWith.foldlM {f : β → α → Outcome β} {l : List α}
    (hf : ∀ b, ∀ a ∈ l, FailsWith P (f b a)) (b : β) : FailsWith P (l.foldlM f b) := by
  induction l generalizing b with
  | nil => exact failsWith_ok b
  | cons a l ih =>
    rw [List.foldlM_cons]
    exact (hf b a (by simp)).bind fun b' => ih (fun b'' a' ha' => hf b'' a' (by simp [ha'])) b'

end Outcome

/-- The cause lies in the form of a text. -/
def Fault.IsFormat (e : Fault) : Prop :=
  ∃ cause, e = .format cause

end BinlogCursor
