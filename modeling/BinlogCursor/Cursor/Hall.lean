/-
Readers of what cursors publish. A reader is a handle to a board and holds no position of
its own, so that it may be taken at one time and looked at at another, and then sees what
stands on the board by then. Boards stand in a hall, each in the slot of the cursor that put
it up. They are never moved or replaced, and only that cursor posts there.
Main statement: whatever happens in the hall, the cursor in a slot gets on as if what is
done to it were done to it alone (`cursor?_run`), and its board is what its readers look at
(`board?_run`).
-/
import BinlogCursor.Cursor.Lemmas

namespace BinlogCursor

/-- Cursors at work side by side. The board of each stands in the slot with its number. -/
structure Hall where
  cursors : List Cursor

/-- A handle to the board in a slot. -/
structure Board.Reader where
  slot : Nat
deriving DecidableEq

namespace Hall

/-- A cursor starts work. Its board is put up in a slot of its own. -/
def enter (h : Hall) (c : Cursor) : Hall :=
  ⟨h.cursors ++ [c]⟩

/-- Does one thing to the cursor in a slot. What it posts is on its board at once. -/
def perform (h : Hall) (slot : Nat) (op : Operation) : Hall :=
  ⟨h.cursors.modify slot fun c => (c.perform op).1⟩

/-- A reader of the board in a slot, if one stands there. -/
def reader? (h : Hall) (slot : Nat) : Option Board.Reader :=
  h.cursors[slot]?.map fun _ => ⟨slot⟩

/-- What happens in a hall. -/
inductive Act
  | enter (c : Cursor)
  | perform (slot : Nat) (op : Operation)

/-- What is done to the cursor in a slot. -/
def Act.operation? (slot : Nat) : Act → Option Operation
  | enter _ => none
  | perform other op => if other = slot then some op else none

def after (h : Hall) : Act → Hall
  | .enter c => h.enter c
  | .perform slot op => h.perform slot op

def run (h : Hall) (acts : List Act) : Hall :=
  acts.foldl after h

end Hall

namespace Board.Reader

/-- The board at which a reader looks. -/
def board? (r : Reader) (h : Hall) : Option Board :=
  h.cursors[r.slot]?.map (·.board)

def position? (r : Reader) (h : Hall) : Option Position :=
  (r.board? h).map Board.current

def checkpoint? (r : Reader) (h : Hall) : Option Checkpoint :=
  (r.board? h).map Board.checkpoint

end Board.Reader

namespace Hall

variable {h : Hall} {slot : Nat} {c : Cursor}

theorem cursor?_after (hc : h.cursors[slot]? = some c) (act : Act) :
    (h.after act).cursors[slot]? = some (c.run (act.operation? slot).toList) := by
  cases act with
  | enter d =>
    have hlt : slot < h.cursors.length := (List.getElem?_eq_some_iff.1 hc).1
    show (h.cursors ++ [d])[slot]? = _
    rw [List.getElem?_append_left hlt, hc]
    rfl
  | perform other op =>
    show (h.cursors.modify other _)[slot]? = _
    rw [List.getElem?_modify, hc, Act.operation?]
    split <;> rfl

/-- A cursor gets on as if what is done to it were done to it alone. -/
theorem cursor?_run (hc : h.cursors[slot]? = some c) (acts : List Act) :
    (h.run acts).cursors[slot]? = some (c.run (acts.filterMap (Act.operation? slot))) := by
  induction acts generalizing h c with
  | nil => exact hc
  | cons act acts ih =>
    have hrun := ih (cursor?_after hc act)
    rw [← Cursor.run_append] at hrun
    rw [List.filterMap_cons]
    cases hop : act.operation? slot with
    | none => rwa [hop] at hrun
    | some op => rwa [hop] at hrun

theorem filterMap_operation?_map (slot : Nat) (ops : List Operation) :
    (ops.map (Act.perform slot)).filterMap (Act.operation? slot) = ops := by
  rw [List.filterMap_map]
  have hown : Act.operation? slot ∘ Act.perform slot = some := by
    funext op
    exact if_pos rfl
  rw [hown, List.filterMap_some]

/-- A reader that was taken at some time sees later what is on the board by then. -/
theorem board?_run {r : Board.Reader} {before : List Act} (hc : h.cursors[slot]? = some c)
    (hr : (h.run before).reader? slot = some r) (later : List Act) :
    r.board? (h.run (before ++ later)) =
      some (c.run ((before ++ later).filterMap (Act.operation? slot))).board := by
  obtain ⟨-, -, rfl⟩ := Option.map_eq_some_iff.1 hr
  show (h.run (before ++ later)).cursors[slot]?.map _ = _
  rw [cursor?_run hc]
  rfl

end Hall

end BinlogCursor
