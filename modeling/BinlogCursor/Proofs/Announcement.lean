/-
Announced sets: what has been announced of a transaction is executed by what ends it, and by an
event that ends outside of any.

`announced_run_iff`: what a cursor holds as announced is the last set that was announced to it, as
long as nothing behind the announcement has executed it.
-/
import BinlogCursor.Proofs.Course
import Mathlib.Data.List.Induction

namespace BinlogCursor

/-! ## Lists that end in an element -/

section

variable {α : Type} {l : List α} {a : α}

theorem concat_eq_append_cons_iff {b : α} {pre post : List α} :
    l ++ [a] = pre ++ b :: post ↔
      (l = pre ∧ a = b ∧ post = []) ∨ ∃ rest, post = rest ++ [a] ∧ l = pre ++ b :: rest := by
  constructor
  · intro h
    rcases List.eq_nil_or_concat post with rfl | ⟨rest, x, rfl⟩
    · obtain ⟨hl, ha⟩ := List.append_singleton_inj.1 h
      exact .inl ⟨hl, ha, rfl⟩
    · rw [List.concat_eq_append, ← List.cons_append, ← List.append_assoc] at h
      obtain ⟨hl, rfl⟩ := List.append_singleton_inj.1 h
      exact .inr ⟨rest, List.concat_eq_append, hl⟩
  · rintro (⟨rfl, rfl, rfl⟩ | ⟨rest, rfl, rfl⟩)
    · rfl
    · rw [List.append_assoc, List.cons_append]

/-- What holds of every element and those before it holds of the last one, too. -/
theorem forall_split_concat_iff {P : List α → α → Prop} :
    (∀ pre b post, l ++ [a] = pre ++ b :: post → P pre b) ↔
      (∀ pre b post, l = pre ++ b :: post → P pre b) ∧ P l a := by
  constructor
  · refine fun h => ⟨fun pre b post hl => h pre b (post ++ [a]) ?_, h l a [] rfl⟩
    rw [hl, List.append_assoc, List.cons_append]
  · rintro ⟨h, ha⟩ pre b post hl
    rcases concat_eq_append_cons_iff.1 hl with ⟨rfl, rfl, -⟩ | ⟨rest, -, hrest⟩
    · exact ha
    · exact h pre b rest hrest

end

/-! ## What is announced -/

/-- The set that an operation announces, if it can be read and is not blank. -/
def Operation.announced? : Operation → Option GtidSet
  | .notify (.gtid _ set) => GtidSet.named? set
  | _ => none

namespace Cursor

variable {c : Cursor} {op : Operation} {ops : List Operation} {g : GtidSet}

/-- The operation ends a transaction, or an event outside of one: what was announced of it is
executed then. -/
def Executes (c : Cursor) : Operation → Prop
  | .notify .commit => True
  | .notify .finish => c.phase = .idle
  | _ => False

/-- Of the sets that operations on a cursor announce this is the last, and none of the operations
behind it executes it. -/
def LastAnnounced (c : Cursor) (ops : List Operation) (g : GtidSet) : Prop :=
  ∃ earlier op later, ops = earlier ++ op :: later ∧ op.announced? = some g ∧
    ∀ since x rest, later = since ++ x :: rest →
      x.announced? = none ∧ ¬ (c.run (earlier ++ op :: since)).Executes x

/-! ## One operation -/

/-- What executes forgets what was announced, and reading resumes behind the event at hand. -/
theorem course_of_executes (h : c.Executes op) :
    (c.perform op).1.course.announced = none ∧
      (c.perform op).1.course.restart.place = c.course.next := by
  rw [course_perform]
  cases op with
  | notify n =>
    cases n with
    | commit => exact ⟨rfl, rfl⟩
    | finish =>
      have hp : c.course.phase = .idle := h
      simp only [Course.after, hp]
      exact ⟨trivial, trivial⟩
    | _ => exact h.elim
  | _ => exact h.elim

theorem announced_of_not_executes (h : ¬ c.Executes op) :
    (c.perform op).1.course.announced = op.announced?.or c.announced := by
  rw [course_perform]
  cases op with
  | notify n =>
    cases n with
    | commit => exact absurd trivial h
    | finish =>
      have hp : c.course.phase = .inTransaction := by
        cases hp : c.phase with
        | idle => exact absurd hp h
        | inTransaction => exact hp
      simp only [Course.after, hp]
      rfl
    | event file offset size =>
      simp only [Course.after]
      split <;> rfl
    | _ => rfl
  | _ => rfl

/-- What executes announces nothing. -/
theorem Executes.announced? (h : c.Executes op) : op.announced? = none := by
  cases op with
  | notify n =>
    cases n with
    | gtid id set => exact h.elim
    | _ => rfl
  | _ => rfl

/-! ## Any number of operations -/

/-- The last operation announces the set, or it leaves alone what was announced before. -/
theorem lastAnnounced_concat_iff : c.LastAnnounced (ops ++ [op]) g ↔
    op.announced? = some g ∨
      op.announced? = none ∧ ¬ (c.run ops).Executes op ∧ c.LastAnnounced ops g := by
  constructor
  · rintro ⟨earlier, y, later, he, hy, hlater⟩
    rcases concat_eq_append_cons_iff.1 he with ⟨rfl, rfl, rfl⟩ | ⟨later, rfl, rfl⟩
    · exact .inl hy
    · obtain ⟨hbefore, hnone, hexec⟩ := forall_split_concat_iff.1 hlater
      exact .inr ⟨hnone, hexec, earlier, y, later, rfl, hy, hbefore⟩
  · rintro (hop | ⟨hnone, hexec, earlier, y, later, rfl, hy, hlater⟩)
    · exact ⟨ops, op, [], rfl, hop, fun since x rest hrest => by simp at hrest⟩
    · refine ⟨earlier, y, later ++ [op], by simp, hy, ?_⟩
      exact forall_split_concat_iff.2 ⟨hlater, hnone, hexec⟩

/-- A cursor to which nothing was announced holds the last set that is announced to it. -/
theorem announced_run_iff (h : c.announced = none) (ops : List Operation) :
    (c.run ops).announced = some g ↔ c.LastAnnounced ops g := by
  induction ops using List.reverseRecOn with
  | nil =>
    rw [run_nil, h]
    refine ⟨fun hg => (by cases hg), fun ⟨earlier, op, later, he, _⟩ => ?_⟩
    simp at he
  | append_singleton ops op ih =>
    rw [lastAnnounced_concat_iff, run_append, run_cons, run_nil]
    show ((c.run ops).perform op).1.course.announced = some g ↔ _
    by_cases hexec : (c.run ops).Executes op
    · simp [(course_of_executes hexec).1, hexec.announced?, hexec]
    · rw [announced_of_not_executes hexec]
      cases hop : op.announced? with
      | none => simp [hexec, ih]
      | some g' => simp

end Cursor

/-- The first transactions of a server `a`. -/
def GtidSet.firstOfA (last : UInt64) : GtidSet :=
  ⟨TextMap.empty.insert "a" ⟨[⟨1, last⟩]⟩⟩

theorem GtidSet.named?_five : named? "a:1-5" = some (firstOfA 5) := by
  have htext : (firstOfA 5).text = "a:1-5" := by decide
  rw [← htext]
  exact named?_text ⟨by decide, by decide⟩

theorem GtidSet.named?_six : named? "a:1-6" = some (firstOfA 6) := by
  have htext : (firstOfA 6).text = "a:1-6" := by decide
  rw [← htext]
  exact named?_text ⟨by decide, by decide⟩

end BinlogCursor
