/-
Event boundaries: a cursor publishes places that its reader has reported, where reading goes on,
where an event starts or where it ends.

A jump does not forget the size of the event before it. Until the next event is observed, what ends
an event publishes a place that far behind the one that was jumped to (`place_executed_astray`).
Unless that happens, every published place is a boundary (`place_reported`).
-/
import BinlogCursor.Proofs.OpenTransaction

namespace BinlogCursor

/-! ## What is reported -/

namespace Operation

variable {op : Operation} {ops more : List Operation} {start : Place}

/-- The places that are reported with an operation: where reading goes on, or where an event starts
and where it ends. -/
def places : Operation → List Place
  | .notify (.jump file offset) => [⟨file, offset⟩]
  | .notify (.event file offset size) => [⟨file, offset⟩, ⟨file, offset + size⟩]
  | _ => []

/-- The places that have been reported, and the one where reading began. -/
def reported (start : Place) (ops : List Operation) : List Place :=
  start :: ops.flatMap places

/-- An event was observed, reading has gone on elsewhere, and no event was observed there. -/
def Astray (ops : List Operation) : Prop :=
  ∃ earlier file offset later, ops = earlier ++ .notify (.jump file offset) :: later ∧
    (last? event? earlier).isSome ∧ last? event? later = none

theorem start_mem_reported : start ∈ reported start ops := by
  simp [reported]

theorem reported_subset : reported start ops ⊆ reported start (ops ++ more) := by
  rw [reported, reported, List.flatMap_append, ← List.cons_append]
  exact List.subset_append_left _ _

theorem mem_reported_of_places {q : Place} (h : q ∈ op.places) :
    q ∈ reported start (ops ++ [op]) := by
  simp [reported, h]

/-- Places are reported with a jump and with an event only. -/
theorem places_cases (op : Operation) :
    (op.places = [] ∧ op.event? = none) ∨ (∃ file offset, op = .notify (.jump file offset)) ∨
      ∃ file offset size, op = .notify (.event file offset size) := by
  cases op with
  | notify n =>
    cases n with
    | jump file offset => exact .inr (.inl ⟨file, offset, rfl⟩)
    | event file offset size => exact .inr (.inr ⟨file, offset, size, rfl⟩)
    | _ => exact .inl ⟨rfl, rfl⟩
  | _ => exact .inl ⟨rfl, rfl⟩

theorem Astray.concat (h : Astray ops) (hop : op.event? = none) : Astray (ops ++ [op]) := by
  obtain ⟨earlier, file, offset, later, rfl, hearlier, hlater⟩ := h
  refine ⟨earlier, file, offset, later ++ [op], by simp, hearlier, ?_⟩
  rw [last?_append, last?_singleton, hop, hlater]
  rfl

/-- Where an event is observed, reading is not astray. -/
theorem not_astray_event (ops : List Operation) (file : String) (offset size : UInt64) :
    ¬ Astray (ops ++ [.notify (.event file offset size)]) := by
  rintro ⟨earlier, jumped, target, later, he, -, hlater⟩
  rcases concat_eq_append_cons_iff.1 he with ⟨-, hjump, -⟩ | ⟨rest, rfl, -⟩
  · cases hjump
  · rw [last?_append, last?_singleton] at hlater
    cases hlater

theorem astray_jump (h : (last? event? ops).isSome) (file : String) (offset : UInt64) :
    Astray (ops ++ [.notify (.jump file offset)]) :=
  ⟨ops, file, offset, [], rfl, h, rfl⟩

end Operation

open Operation

/-! ## The event at hand -/

namespace Course

variable {k : Course} {op : Operation} {ops : List Operation} {start : Place}

theorem size_after (k : Course) (op : Operation) :
    (k.after op).size = (op.event?.map Prod.snd).getD k.size := by
  cases op with
  | notify n =>
    cases n with
    | event file offset size => simp only [after]; split <;> rfl
    | finish => simp only [after]; split <;> rfl
    | _ => rfl
  | _ => rfl

/-- The size is that of the last event. -/
theorem size_run (k : Course) (ops : List Operation) :
    (k.run ops).size = ((last? event? ops).map Prod.snd).getD k.size := by
  induction ops using List.reverseRecOn with
  | nil => rfl
  | append_singleton ops op ih =>
    rw [run_concat, size_after, ih, last?_append, last?_singleton]
    cases op.event? <;> rfl

/-- What reports no place leaves the event at hand as it is. -/
theorem next_after_of_places (k : Course) (h : op.places = []) :
    (k.after op).hand = k.hand ∧ (k.after op).next = k.next := by
  cases op with
  | notify n =>
    cases n with
    | jump file offset => cases h
    | event file offset size => cases h
    | finish => simp only [after]; split <;> exact ⟨rfl, rfl⟩
    | _ => exact ⟨rfl, rfl⟩
  | _ => exact ⟨rfl, rfl⟩

theorem next_run_of_places (k : Course) (h : ∀ op ∈ ops, op.places = []) :
    (k.run ops).next = k.next := by
  induction ops generalizing k with
  | nil => rfl
  | cons op ops ih =>
    rw [run_cons, ih _ fun op' hop => h op' (by simp [hop])]
    exact (k.next_after_of_places (h op (by simp))).2

/-- The event at hand starts at a boundary, and it ends at one unless reading has gone astray. -/
structure Bounded (start : Place) (ops : List Operation) (k : Course) : Prop where
  hand : k.hand ∈ reported start ops
  next : ¬ Astray ops → k.next ∈ reported start ops

theorem bounded_run (hstart : k.hand = start) (hsize : k.size = 0) (ops : List Operation) :
    Bounded start ops (k.run ops) := by
  induction ops using List.reverseRecOn with
  | nil =>
    refine ⟨hstart ▸ start_mem_reported, fun _ => ?_⟩
    rw [run_nil, next, hsize, hstart, UInt64.add_zero]
    exact start_mem_reported
  | append_singleton ops op ih =>
    rw [run_concat]
    rcases op.places_cases with ⟨hplaces, hevent⟩ | ⟨file, offset, rfl⟩ | ⟨file, offset, size, rfl⟩
    · obtain ⟨hhand, hnext⟩ := (k.run ops).next_after_of_places hplaces
      refine ⟨hhand ▸ reported_subset ih.hand, fun hastray => ?_⟩
      exact hnext ▸ reported_subset (ih.next fun h => hastray (h.concat hevent))
    · refine ⟨mem_reported_of_places (by simp [places, after]), fun hastray => ?_⟩
      -- Nothing has been observed before the jump, so nothing lies between the event at hand and
      -- the next one.
      have hnone : last? event? ops = none :=
        Option.not_isSome_iff_eq_none.1 fun h => hastray (astray_jump h file offset)
      have hnext : ((k.run ops).after (.notify (.jump file offset))).next = ⟨file, offset⟩ := by
        show Place.mk file (offset + (k.run ops).size) = _
        rw [size_run, hnone, Option.map_none, Option.getD_none, hsize, UInt64.add_zero]
      rw [hnext]
      exact mem_reported_of_places (by simp [places])
    · have hat : ((k.run ops).after (.notify (.event file offset size))).hand = ⟨file, offset⟩ ∧
          ((k.run ops).after (.notify (.event file offset size))).size = size := by
        cases hp : (k.run ops).phase <;> simp [after, hp]
      refine ⟨mem_reported_of_places (by simp [places, hat.1]), fun _ => ?_⟩
      exact mem_reported_of_places (by simp [places, next, hat])

end Course

namespace Cursor

variable {settings : Settings} {p? : Option Position} {made c : Cursor} {op : Operation}
variable {before since ops : List Operation}

theorem Made.hand (h : made.Made settings p?) : made.course.hand = made.position.place := by
  cases h with
  | new place => rfl
  | @restored m p c read made =>
    rw [restore, read] at made
    cases made
    rw [position, (startsAt_restoreAt settings p).published]
    exact congrArg (fun o : Origin => Place.mk o.file o.offset) (origin_publish _)

theorem Made.size (h : made.Made settings p?) : made.course.size = 0 := by
  cases h with
  | new place => rfl
  | @restored m p c read made =>
    rw [restore, read] at made
    cases made
    exact eventSize_publish _

theorem Made.bounded_run (h : made.Made settings p?) (ops : List Operation) :
    Course.Bounded made.position.place ops (made.run ops).course := by
  rw [course_run]
  exact Course.bounded_run h.hand h.size ops

/-! ## What is published -/

/-- Reading resumes behind what has been executed, at the event at hand, or where it would have
resumed before. -/
theorem place_perform (c : Cursor) (op : Operation) :
    c.Executes op ∨ (c.perform op).1.course.restart.place = (c.perform op).1.course.hand ∨
      (c.perform op).1.course.restart.place = c.course.restart.place := by
  rw [course_perform]
  cases op with
  | notify n =>
    cases n with
    | jump file offset => exact .inr (.inl rfl)
    | event file offset size =>
      simp only [Course.after]
      split
      · exact .inr (.inl rfl)
      · exact .inr (.inr rfl)
    | begin => exact .inr (.inl rfl)
    | commit => exact .inl trivial
    | finish =>
      cases hp : c.phase with
      | idle => exact .inl hp
      | inTransaction =>
        have hp : c.course.phase = .inTransaction := hp
        refine .inr (.inr ?_)
        simp only [Course.after, hp]
    | row index total => exact .inr (.inr rfl)
    | gtid id set => exact .inr (.inr rfl)
  | _ => exact .inr (.inr rfl)

/-- No event is ended where reading has gone astray. -/
def EndsInPlace (made : Cursor) (ops : List Operation) : Prop :=
  ∀ earlier op later, ops = earlier ++ op :: later → (made.run earlier).Executes op →
    ¬ Astray earlier

theorem endsInPlace_nil (made : Cursor) : made.EndsInPlace [] := by
  intro earlier op later he
  simp at he

theorem endsInPlace_concat_iff : made.EndsInPlace (ops ++ [op]) ↔
    made.EndsInPlace ops ∧ ((made.run ops).Executes op → ¬ Astray ops) :=
  forall_split_concat_iff

/-- **Every checkpoint points at an event boundary**, unless an event is ended while reading has
gone astray: it is where reading began, or where it went on, or where an event was observed to start
or to end. -/
theorem place_reported (h : made.Made settings p?) (ops : List Operation)
    (hends : made.EndsInPlace ops) :
    (made.run ops).position.place ∈ reported made.position.place ops := by
  rw [(h.settled_run ops).place_eq_course]
  induction ops using List.reverseRecOn with
  | nil =>
    rw [run_nil, ← h.coherent.settled.place_eq_course]
    exact start_mem_reported
  | append_singleton ops op ih =>
    obtain ⟨hbefore, hop⟩ := endsInPlace_concat_iff.1 hends
    have hhand := (h.bounded_run (ops ++ [op])).hand
    rw [run_append, run_cons, run_nil] at hhand ⊢
    rcases place_perform (made.run ops) op with hexec | he | he
    · rw [(course_of_executes hexec).2]
      exact reported_subset ((h.bounded_run ops).next (hop hexec))
    · exact he ▸ hhand
    · exact he ▸ reported_subset (ih hbefore)

/-- The last event of a file is observed, reading goes on in the next file, and the first event
there is observed. -/
def intoNextFile : List Operation :=
  [.notify (.event "bin.000001" 900 50), .notify (.jump "bin.000002" 4),
    .notify (.event "bin.000002" 4 120)]

/-- The event is done that was observed behind a jump. -/
theorem place_reported_in_next_file :
    ((new .default ⟨"bin.000001", 4⟩).run (intoNextFile ++ [.notify .finish])).position.place ∈
      reported ⟨"bin.000001", 4⟩ (intoNextFile ++ [.notify .finish]) := by
  refine place_reported (.new ⟨"bin.000001", 4⟩) _ (endsInPlace_concat_iff.2 ⟨?_, fun _ => ?_⟩)
  · show EndsInPlace _ ((([] ++ [_]) ++ [_]) ++ [_])
    simp only [endsInPlace_concat_iff]
    exact ⟨⟨⟨endsInPlace_nil _, False.elim⟩, False.elim⟩, False.elim⟩
  · exact not_astray_event (intoNextFile.take 2) _ _ _

/-- What ends an event behind a jump publishes a place that lies as far behind the jump as the event
before it was long. -/
theorem place_executed_astray (h : made.Made settings p?) {p : Place} {size : UInt64}
    (hevent : last? event? before = some (p, size)) (file : String) (offset : UInt64)
    (hsince : ∀ op ∈ since, op.places = [])
    (hexec : (made.run (before ++ .notify (.jump file offset) :: since)).Executes op) :
    (made.run (before ++ .notify (.jump file offset) :: since ++ [op])).position.place =
      ⟨file, offset + size⟩ := by
  have hnext : (made.run (before ++ .notify (.jump file offset) :: since)).course.next =
      ⟨file, offset + size⟩ := by
    rw [course_run, Course.run_append, Course.run_cons, Course.next_run_of_places _ hsince]
    -- The jump leaves the size in place.
    show Place.mk file (offset + (made.course.run before).size) = _
    rw [Course.size_run, hevent]
    rfl
  rw [(h.settled_run _).place_eq_course, run_append, run_cons, run_nil,
    (course_of_executes hexec).2, hnext]

/-- An event is done between a jump and the first event there. The place that is published lies
within that event. -/
theorem place_not_reported_in_next_file :
    ((new .default ⟨"bin.000001", 4⟩).run
        (intoNextFile.take 2 ++ [.notify .finish])).position.place ∉
      reported ⟨"bin.000001", 4⟩ (intoNextFile.take 2 ++ [.notify .finish]) := by
  have hmade : (new .default ⟨"bin.000001", 4⟩).Made .default none := .new _
  have hevent : last? event? (intoNextFile.take 1) = some (⟨"bin.000001", 900⟩, 50) := rfl
  have hplace : ((new .default ⟨"bin.000001", 4⟩).run
      (intoNextFile.take 2 ++ [.notify .finish])).position.place = ⟨"bin.000002", 54⟩ :=
    place_executed_astray hmade hevent "bin.000002" 4 (List.forall_mem_nil _) rfl
  rw [hplace]
  decide

end Cursor

end BinlogCursor
