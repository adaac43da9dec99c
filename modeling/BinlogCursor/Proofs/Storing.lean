/-
What a writer stores, whenever it ticks and whatever the store answers.

`Work` is a writer together with those who publish and who stop it, `Step` what can happen to it.
`Kept` is the invariant: what is stored was published in that order, without repetitions, and the
writer has failed exactly when the last call of the store was refused. `stores_what_is_published`
reads from it what the store holds at any moment and what stopping the writer gives.
-/
import BinlogCursor.Writer
import Mathlib.Data.List.Chain
import Mathlib.Logic.Relation

namespace BinlogCursor.Writer

variable {answers : StoreAnswers}

/-! ## A tick -/

/-- What a tick can come to: nothing once the writer has failed, nothing when the published
checkpoint was stored last, and else a call of the store, which succeeds or fails. -/
inductive Ticks (answers : StoreAnswers) (w : Writer) : Writer → Prop
  | ended {e : Fault} (failed : w.failure = some e) : Ticks answers w w
  | unchanged (working : w.failure = none) (same : w.lastStored = some w.board.checkpoint) :
      Ticks answers w w
  | stored (working : w.failure = none) (change : w.lastStored ≠ some w.board.checkpoint)
      (answer : answers (w.calls + 1) = .ok ()) :
      Ticks answers w
        { w with
          store := w.store.append w.board.checkpoint
          calls := w.calls + 1
          lastStored := some w.board.checkpoint }
  | refused {e : Fault} (working : w.failure = none)
      (change : w.lastStored ≠ some w.board.checkpoint)
      (answer : answers (w.calls + 1) = .error e) :
      Ticks answers w { w with calls := w.calls + 1, failure := some e }

theorem ticks_tick (answers : StoreAnswers) (w : Writer) : Ticks answers w (w.tick answers) := by
  unfold tick
  cases hf : w.failure with
  | some e => exact .ended hf
  | none =>
    simp only [Option.isSome_none, Bool.false_eq_true, if_false, storeChange]
    by_cases hs : w.lastStored = some w.board.checkpoint
    · rw [if_pos hs]
      exact .unchanged hf hs
    · rw [if_neg hs]
      cases ha : answers (w.calls + 1) with
      | ok u => exact .stored hf hs ha
      | error e => exact .refused hf hs ha

/-- Whether all went well. -/
def outcome (w : Writer) : Outcome Unit :=
  match w.failure with
  | some e => .error e
  | none => .ok ()

/-- Stopping is a last tick, and tells how the work went. -/
theorem stop_eq (w : Writer) (answers : StoreAnswers) :
    w.stop answers = (w.tick answers, (w.tick answers).outcome) := rfl

/-- The store was called a `k`-th time, and this call failed. -/
def Refused (answers : StoreAnswers) (w : Writer) (k : Nat) (e : Fault) : Prop :=
  1 ≤ k ∧ k ≤ w.calls ∧ answers k = .error e

/-! ## What can happen -/

/-- A writer with those who publish and who stop it. -/
structure Work where
  writer : Writer
  /-- The checkpoints that have been published, the one to begin with included. -/
  published : List Checkpoint
  /-- What stopping the writer gave, once it was stopped. -/
  ended : Option (Outcome Unit)

namespace Work

def start (p : Position) : Work :=
  ⟨.new ⟨p⟩, [p.toCheckpoint], none⟩

/-- All that the store holds. -/
def stored (w : Work) : List Checkpoint :=
  w.writer.store.history

end Work

inductive Event
  | publish (p : Position)
  | tick
  | stop

/-- One thing happens: somebody publishes, or the clock ticks, or the writer is stopped, after
which it does not tick any more. The store answers its calls in any way. -/
inductive Step (answers : StoreAnswers) : Work → Event → Work → Prop
  | publish (w : Work) (p : Position) :
      Step answers w (.publish p)
        { w with
          writer := w.writer.publish p
          published := w.published ++ [p.toCheckpoint] }
  | tick {w : Work} (working : w.ended = none) :
      Step answers w .tick { w with writer := w.writer.tick answers }
  | stop {w : Work} (working : w.ended = none) :
      Step answers w .stop
        { w with
          writer := (w.writer.stop answers).1
          ended := some (w.writer.stop answers).2 }

/-- Any number of things happen, one after the other. -/
def Work.Becomes (answers : StoreAnswers) : Work → Work → Prop :=
  Relation.ReflTransGen fun w w' => ∃ e, Step answers w e w'

/-! ## What the writer keeps -/

/-- What holds of a writer, by what has been published. -/
structure Kept (answers : StoreAnswers) (published : List Checkpoint) (w : Writer) : Prop where
  /-- The board shows what was published last, and that is not stored yet or was stored last. -/
  selection : ∃ earlier, published = earlier ++ [w.board.checkpoint] ∧
    (w.store.history.Sublist earlier ∨
      w.lastStored = some w.board.checkpoint ∧ w.store.history.Sublist published)
  last : w.store.history.getLast? = w.lastStored
  distinct : w.store.history.IsChain (· ≠ ·)
  /-- The only call that can have failed is the last, and it ended the writer. -/
  refused : ∀ k e, w.Refused answers k e ↔ k = w.calls ∧ w.failure = some e

namespace Kept

variable {published : List Checkpoint} {w w' : Writer}

theorem new (p : Position) : Kept answers [p.toCheckpoint] (.new ⟨p⟩) where
  selection := ⟨[], rfl, .inl (.refl [])⟩
  last := rfl
  distinct := .nil
  refused k e := by
    simp only [Refused, Writer.new]
    constructor
    · rintro ⟨h₁, h₂, -⟩
      omega
    · rintro ⟨-, h⟩
      cases h

theorem sublist (h : Kept answers published w) : w.store.history.Sublist published := by
  obtain ⟨earlier, rfl, hs | ⟨-, hs⟩⟩ := h.selection
  · exact hs.trans (List.sublist_append_left _ _)
  · exact hs

theorem getLast?_published (h : Kept answers published w) :
    published.getLast? = some w.board.checkpoint := by
  obtain ⟨earlier, rfl, -⟩ := h.selection
  simp

theorem publish (h : Kept answers published w) (p : Position) :
    Kept answers (published ++ [p.toCheckpoint]) (w.publish p) where
  selection := ⟨published, rfl, .inl h.sublist⟩
  last := h.last
  distinct := h.distinct
  refused := h.refused

/-- As long as the writer works no call has failed. -/
theorem not_refused (h : Kept answers published w) (hw : w.failure = none) (k : Nat) (e : Fault) :
    ¬ w.Refused answers k e := fun hr => by
  have hf := ((h.refused k e).1 hr).2
  rw [hw] at hf
  cases hf

/-- One call more: it alone can have failed. -/
theorem refused_succ (h : Kept answers published w) (hw : w.failure = none)
    (hc : w'.calls = w.calls + 1) (k : Nat) (e : Fault) :
    w'.Refused answers k e ↔ k = w.calls + 1 ∧ answers (w.calls + 1) = .error e := by
  constructor
  · rintro ⟨hk, hle, ha⟩
    rw [hc] at hle
    rcases Nat.lt_or_eq_of_le hle with hlt | rfl
    · exact absurd ⟨hk, Nat.le_of_lt_succ hlt, ha⟩ (h.not_refused hw k e)
    · exact ⟨rfl, ha⟩
  · rintro ⟨rfl, ha⟩
    exact ⟨Nat.le_add_left 1 _, Nat.le_of_eq hc.symm, ha⟩

theorem ticks (h : Kept answers published w) (ht : Ticks answers w w') :
    Kept answers published w' := by
  cases ht with
  | ended failed => exact h
  | unchanged working same => exact h
  | stored working change answer =>
    obtain ⟨earlier, hp, hs⟩ := h.selection
    have hs := hs.resolve_right fun hr => change hr.1
    refine ⟨⟨earlier, hp, .inr ⟨rfl, ?_⟩⟩, ?_, ?_, fun k e => ?_⟩
    · rw [hp]
      exact hs.append (.refl _)
    · simp [Store.append]
    · -- The checkpoint differs from the one that was stored last, which is the one before it.
      refine List.isChain_append.2 ⟨h.distinct, .singleton _, fun x hx y hy hxy => change ?_⟩
      rw [h.last] at hx
      cases hy
      exact hxy ▸ hx
    · rw [h.refused_succ working rfl, answer, working]
      simp
  | refused working change answer =>
    refine ⟨?_, h.last, h.distinct, fun k e => ?_⟩
    · exact h.selection
    · rw [h.refused_succ working rfl, answer, Except.error.injEq, Option.some.injEq]

theorem tick (h : Kept answers published w) : Kept answers published (w.tick answers) :=
  h.ticks (ticks_tick answers w)

/-- A tick stores the checkpoint published last, or nothing. -/
theorem history_tick (h : Kept answers published w) :
    (w.tick answers).store.history = w.store.history ∨
      (∀ k e, ¬ (w.tick answers).Refused answers k e) ∧ ∃ c, published.getLast? = some c ∧
        (w.tick answers).store.history = w.store.history ++ [c] := by
  have ht := ticks_tick answers w
  have hkept := h.tick
  generalize w.tick answers = w' at ht hkept ⊢
  cases ht with
  | ended failed => exact .inl rfl
  | unchanged working same => exact .inl rfl
  | stored working change answer =>
    exact .inr ⟨hkept.not_refused working, _, h.getLast?_published, rfl⟩
  | refused working change answer => exact .inl rfl

/-- After a tick without a failure the checkpoint published last is stored. -/
theorem getLast?_tick (h : Kept answers published w) (hw : (w.tick answers).failure = none) :
    (w.tick answers).store.history.getLast? = published.getLast? := by
  rw [h.getLast?_published, h.tick.last]
  have ht := ticks_tick answers w
  generalize w.tick answers = w' at ht hw ⊢
  cases ht with
  | ended failed =>
    rw [hw] at failed
    cases failed
  | unchanged working same => exact same
  | stored working change answer => rfl
  | refused working change answer => cases hw

theorem failure_eq_none_iff (h : Kept answers published w) :
    w.failure = none ↔ ∀ k e, ¬ w.Refused answers k e := by
  refine ⟨h.not_refused, fun hr => ?_⟩
  cases hf : w.failure with
  | none => rfl
  | some e => exact absurd ((h.refused w.calls e).2 ⟨rfl, hf⟩) (hr _ _)

end Kept

theorem outcome_eq_ok_iff {w : Writer} : w.outcome = .ok () ↔ w.failure = none := by
  unfold outcome
  cases w.failure <;> simp

/-- A writer that has failed does nothing at a tick. -/
theorem tick_of_failure {w : Writer} {e : Fault} (h : w.failure = some e) :
    w.tick answers = w := by
  simp [tick, h]

/-! ## At any moment -/

/-- What holds at any moment; a writer that was stopped has told how its work went. -/
structure Work.Kept (answers : StoreAnswers) (w : Work) : Prop where
  writer : Writer.Kept answers w.published w.writer
  ended : ∀ r, w.ended = some r → r = w.writer.outcome

namespace Work

variable {w w' : Work}

theorem Kept.step (h : w.Kept answers) {e : Event} (hs : Step answers w e w') :
    w'.Kept answers := by
  cases hs with
  | publish p => exact ⟨h.writer.publish p, h.ended⟩
  | tick working =>
    refine ⟨h.writer.tick, fun r hr => ?_⟩
    rw [working] at hr
    cases hr
  | stop working =>
    rw [stop_eq]
    refine ⟨h.writer.tick, fun r hr => ?_⟩
    cases hr
    rfl

theorem Kept.becomes (h : w.Kept answers) (hb : w.Becomes answers w') : w'.Kept answers := by
  induction hb with
  | refl => exact h
  | tail _ hs ih =>
    obtain ⟨e, hs⟩ := hs
    exact ih.step hs

theorem kept_start (p : Position) : (start p).Kept answers :=
  ⟨.new p, fun r hr => by cases hr⟩

/-- A writer that has failed neither calls the store again nor recovers. -/
theorem stays_failed {e : Fault} (hf : w.writer.failure = some e) (hb : w.Becomes answers w') :
    w'.writer.failure = some e ∧ w'.writer.calls = w.writer.calls ∧ w'.stored = w.stored := by
  induction hb with
  | refl => exact ⟨hf, rfl, rfl⟩
  | @tail x y _ hs ih =>
    obtain ⟨ev, hs⟩ := hs
    obtain ⟨hfx, hcx, hsx⟩ := ih
    cases hs with
    | publish p => exact ⟨hfx, hcx, hsx⟩
    | tick working =>
      rw [tick_of_failure hfx]
      exact ⟨hfx, hcx, hsx⟩
    | stop working =>
      rw [stop_eq, tick_of_failure hfx]
      exact ⟨hfx, hcx, hsx⟩

/-- What one step adds to the store. -/
theorem Kept.stored_step (h : w.Kept answers) {e : Event} (hs : Step answers w e w') :
    w'.stored = w.stored ∨
      (∀ k f, ¬ w'.writer.Refused answers k f) ∧
        ∃ c, w.published.getLast? = some c ∧ w'.stored = w.stored ++ [c] := by
  cases hs with
  | publish p => exact .inl rfl
  | tick working => exact h.writer.history_tick
  | stop working => exact h.writer.history_tick

end Work

/-- **A faithful history.** At any moment the store holds some of the checkpoints published so far,
in their order and no two alike behind one another; each was the one published last when it was
added. After a tick without a failure the checkpoint published last is stored. Once a call of the
store has failed there is none any more, nothing is added to the store, and stopping the writer
gives this failure. Stopping it gives no failure exactly when no call has failed, and then the
checkpoint published last is stored. -/
theorem stores_what_is_published {p : Position} {w : Work}
    (h : (Work.start p).Becomes answers w) :
    w.stored.Sublist w.published ∧
      (∀ e w', Step answers w e w' → w'.stored = w.stored ∨
        (∀ k f, ¬ w'.writer.Refused answers k f) ∧
          ∃ c, w.published.getLast? = some c ∧ w'.stored = w.stored ++ [c]) ∧
      w.stored.IsChain (· ≠ ·) ∧
      (∀ w', Step answers w .tick w' → (∀ k e, ¬ w'.writer.Refused answers k e) →
        w'.stored.getLast? = w'.published.getLast?) ∧
      (∀ k e, w.writer.Refused answers k e → ∀ w', w.Becomes answers w' →
        w'.writer.calls = k ∧ w'.stored = w.stored ∧ ∀ r, w'.ended = some r → r = .error e) ∧
      (∀ w', Step answers w .stop w' →
        (w'.ended = some (.ok ()) ↔ ∀ k e, ¬ w'.writer.Refused answers k e) ∧
          (w'.ended = some (.ok ()) → w'.stored.getLast? = w'.published.getLast?)) := by
  have hk := (Work.kept_start p).becomes h
  refine ⟨hk.writer.sublist, fun e w' => hk.stored_step, hk.writer.distinct, ?_, ?_, ?_⟩
  · intro w' hs hr
    cases hs
    exact hk.writer.getLast?_tick (hk.writer.tick.failure_eq_none_iff.2 hr)
  · intro k e hr w' hb
    obtain ⟨rfl, hf⟩ := (hk.writer.refused k e).1 hr
    obtain ⟨hf', hc, hs⟩ := Work.stays_failed hf hb
    refine ⟨hc, hs, fun r he => ?_⟩
    rw [(hk.becomes hb).ended r he, outcome, hf']
  · intro w' hs
    cases hs
    rw [stop_eq]
    have hok : some (w.writer.tick answers).outcome = some (.ok ()) ↔
        (w.writer.tick answers).failure = none := by
      rw [Option.some.injEq, outcome_eq_ok_iff]
    exact ⟨hok.trans hk.writer.tick.failure_eq_none_iff,
      fun he => hk.writer.getLast?_tick (hok.1 he)⟩

/-- A store that refuses its second call. -/
def refusingSecond : StoreAnswers := fun k =>
  if k = 2 then .error (.store "disk full") else .ok ()

/-- A writer that has stored one checkpoint, and to which the store has refused the next. -/
def onceRefused : Work where
  writer :=
    (((Writer.new ⟨.start ⟨"bin.000001", 4⟩⟩).tick refusingSecond).publish
      (.start ⟨"bin.000001", 120⟩)).tick refusingSecond
  published :=
    [(Position.start ⟨"bin.000001", 4⟩).toCheckpoint,
      (Position.start ⟨"bin.000001", 120⟩).toCheckpoint]
  ended := none

/-- The first checkpoint stays the only one, and stopping the writer tells of the refusal. -/
theorem stores_what_is_published_before_refusal :
    (Work.start (.start ⟨"bin.000001", 4⟩)).Becomes refusingSecond onceRefused ∧
      ∃ w : Work, onceRefused.Becomes refusingSecond w ∧ w.published.length = 3 ∧
        w.stored = [(Position.start ⟨"bin.000001", 4⟩).toCheckpoint] ∧
        w.ended = some (.error (.store "disk full")) := by
  have hbefore : (Work.start (.start ⟨"bin.000001", 4⟩)).Becomes refusingSecond onceRefused :=
    .tail (.tail (.single ⟨.tick, .tick rfl⟩)
      ⟨.publish (.start ⟨"bin.000001", 120⟩), .publish _ _⟩) ⟨.tick, .tick rfl⟩
  have hafter : onceRefused.Becomes refusingSecond _ :=
    .tail (.single ⟨.publish (.start ⟨"bin.000001", 212⟩), .publish _ _⟩) ⟨.stop, .stop rfl⟩
  obtain ⟨-, -, -, -, hfailed, -⟩ := stores_what_is_published hbefore
  obtain ⟨-, hstored, hended⟩ := hfailed 2 _ ⟨by decide, by decide, rfl⟩ _ hafter
  exact ⟨hbefore, _, hafter, rfl, hstored.trans (by decide), congrArg some (hended _ rfl)⟩

end BinlogCursor.Writer
