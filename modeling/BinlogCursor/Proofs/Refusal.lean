/-
Refused operations: what is left of them.

An announcement notes its identifier before it reads its set, so of one that is refused the
identifier stays (`perform_of_error`), and that is all. No operation asks for the identifier
(`identified_perform`); so cursors that differ in it only differ in it only behind all that follows
(`run_identified`), and whatever is refused might have been left out (`run_accepted`).
-/
import BinlogCursor.Proofs.OpenTransaction

namespace BinlogCursor

theorem GtidSet.failsWith_parseUnlessBlank (set : Option String) :
    Outcome.FailsWith Fault.IsFormat (parseUnlessBlank set) := by
  unfold parseUnlessBlank
  split
  · exact Outcome.failsWith_ok _
  · split
    · exact Outcome.failsWith_ok _
    · intro e he
      cases hp : parse _ with
      | error e' =>
        rw [hp] at he
        cases he
        exact failsWith_parse _ _ hp
      | ok g =>
        rw [hp] at he
        cases he

namespace Operation

variable {op : Operation} {ops : List Operation}

/-- The identifier that an operation notes. -/
def identifier? : Operation → Option String
  | .notify (.gtid id _) => some id
  | _ => none

/-- The text of a set that an operation brings. -/
def set? : Operation → Option String
  | .notify (.gtid _ set) => some set
  | .setExecuted set => some set
  | _ => none

/-- The set that an operation brings, if it brings one, can be read. -/
def accepted (op : Operation) : Bool :=
  op.set?.all fun set => (GtidSet.parseUnlessBlank (some set)).isOk

end Operation

open Operation

namespace Cursor

variable {c : Cursor} {op : Operation} {ops : List Operation} {e : Fault}

/-- The cursor with another identifier noted for the rows. -/
def identified (c : Cursor) (id : Option String) : Cursor :=
  { c with origin := { c.origin with gtid := id } }

@[simp] theorem identified_self (c : Cursor) : c.identified c.origin.gtid = c := rfl

@[simp] theorem identified_identified (c : Cursor) (id id' : Option String) :
    (c.identified id).identified id' = c.identified id' := rfl

theorem identified_eq_self_iff (c : Cursor) (id : Option String) :
    c.identified id = c ↔ id = c.origin.gtid := by
  constructor
  · intro h
    exact congrArg (fun c : Cursor => c.origin.gtid) h
  · rintro rfl
    rfl

/-! ## One operation -/

theorem identified_publish (c : Cursor) (id : Option String) :
    c.publish.identified id = (c.identified id).publish := by
  obtain ⟨phase, origin, restart, published, size, announced, restored, awaited, board⟩ := c
  cases awaited with
  | none => rfl
  | some r =>
    by_cases h : r.isBeyond restart = true
    · simp only [publish, identified, h, if_true]
      rfl
    · simp only [publish, identified, h]
      rfl

/-- No operation asks for the identifier that was noted before. -/
theorem identified_perform (c : Cursor) (id : Option String) (op : Operation) :
    (c.perform op).1.identified (op.identifier?.or id) = ((c.identified id).perform op).1 := by
  cases op with
  | notify n =>
    cases n with
    | jump file offset => exact identified_publish _ id
    | event file offset size =>
      obtain ⟨phase, _⟩ := c
      cases phase with
      | idle => exact identified_publish _ id
      | inTransaction => rfl
    | begin => exact identified_publish _ id
    | row index total => exact identified_publish _ id
    | finish =>
      obtain ⟨phase, _⟩ := c
      cases phase with
      | inTransaction => exact identified_publish _ id
      | idle =>
        simp only [perform, apply, finishEvent, takeAnnounced_eq]
        exact identified_publish _ id
    | commit =>
      simp only [perform, apply, closeTransaction, takeAnnounced_eq]
      exact identified_publish _ id
    | gtid id' set =>
      simp only [perform, apply, announce]
      rcases GtidSet.parseUnlessBlank (some set) with e | _ | g <;> rfl
  | setExecuted set =>
    simp only [perform, setExecuted]
    rcases GtidSet.parseUnlessBlank (some set) with e | _ | g
    · rfl
    · rfl
    · exact identified_publish _ id
  | enterSnapshot => exact identified_publish _ id
  | markSnapshotEnd => rfl
  | leaveSnapshot => exact identified_publish _ id
  | noteTime time => exact identified_publish _ id
  | noteDatabase database => rfl
  | noteTable database table => rfl
  | noteThread thread => rfl
  | noteQuery query => rfl

/-- What is refused brings a set that cannot be read, and at most its identifier is noted. -/
theorem perform_of_error (h : (c.perform op).2 = .error e) :
    op.set?.map (fun set => GtidSet.parseUnlessBlank (some set)) = some (.error e) ∧
      (c.perform op).1 = c.identified (op.identifier?.or c.origin.gtid) := by
  cases op with
  | notify n =>
    cases n with
    | gtid id set =>
      simp only [perform, apply, announce] at h ⊢
      simp only [set?, Option.map_some, Option.some.injEq]
      cases hset : GtidSet.parseUnlessBlank (some set) with
      | error e' =>
        rw [hset] at h
        cases h
        exact ⟨rfl, rfl⟩
      | ok g =>
        rw [hset] at h
        cases g <;> cases h
    | _ => cases h
  | setExecuted set =>
    simp only [perform, setExecuted] at h ⊢
    simp only [set?, Option.map_some, Option.some.injEq]
    cases hset : GtidSet.parseUnlessBlank (some set) with
    | error e' =>
      rw [hset] at h
      cases h
      exact ⟨rfl, rfl⟩
    | ok g =>
      rw [hset] at h
      cases g <;> cases h
  | _ => cases h

theorem accepted_eq_true_iff (c : Cursor) (op : Operation) :
    op.accepted = true ↔ (c.perform op).2 = .ok () := by
  cases op with
  | notify n =>
    cases n with
    | gtid id set =>
      simp only [perform, apply, announce, accepted, set?, Option.all_some]
      rcases GtidSet.parseUnlessBlank (some set) with e | _ | g <;>
        simp [Except.isOk, Except.toBool]
    | _ => exact iff_of_true rfl rfl
  | setExecuted set =>
    simp only [perform, setExecuted, accepted, set?, Option.all_some]
    rcases GtidSet.parseUnlessBlank (some set) with e | _ | g <;> simp [Except.isOk, Except.toBool]
  | _ => exact iff_of_true rfl rfl

/-- A set that can be read or not: either way there is an answer. -/
theorem exists_error_of_not_accepted (c : Cursor) (h : ¬ op.accepted = true) :
    ∃ e, (c.perform op).2 = .error e := by
  cases he : (c.perform op).2 with
  | error e => exact ⟨e, rfl⟩
  | ok u => exact absurd ((accepted_eq_true_iff c op).2 he) h

/-! ## Any number of operations -/

/-- Cursors that differ in the identifier only do so behind any operations, and not at all where one
of these notes another. -/
theorem run_identified (c : Cursor) (id : Option String) (ops : List Operation) :
    (c.identified id).run ops = (c.run ops).identified ((last? identifier? ops).or id) := by
  induction ops using List.reverseRecOn with
  | nil => rfl
  | append_singleton ops op ih =>
    rw [run_append, run_append, ih, run_cons, run_nil, run_cons, run_nil, ← identified_perform,
      last?_append, last?_singleton, Option.or_assoc]

/-- What is refused might have been left out, but for the identifier that is noted last. -/
theorem run_accepted (c : Cursor) (ops : List Operation) :
    c.run ops =
      (c.run (ops.filter accepted)).identified ((last? identifier? ops).or c.origin.gtid) := by
  induction ops generalizing c with
  | nil => rfl
  | cons op ops ih =>
    have hlast : last? identifier? (op :: ops) = (last? identifier? ops).or op.identifier? := by
      rw [← List.singleton_append, last?_append, last?_singleton]
    rw [run_cons, ih, List.filter_cons]
    by_cases hop : op.accepted = true
    · have hid : (c.perform op).1.origin.gtid = op.identifier?.or c.origin.gtid :=
        (congrArg (fun c : Cursor => c.origin.gtid) (identified_perform c c.origin.gtid op)).symm
      rw [if_pos hop, run_cons, hlast, hid, Option.or_assoc]
    · obtain ⟨e, he⟩ := exists_error_of_not_accepted c hop
      rw [if_neg hop, (perform_of_error he).2, run_identified, identified_identified, hlast,
        Option.or_assoc]
      rfl

/-- **A refusal leaves nothing but an identifier.** A notification is refused only if it announces
a set that cannot be read. Of the cursor the identifier that it notes for the rows is then that of
the announcement, and all else, shown or not, is as before; so nothing at all has changed exactly if
that identifier was noted already. Setting what has been executed changes nothing if it is refused.
And with whatever is refused left out, any operations lead to the same cursor, but for the
identifier noted last. -/
theorem refusal_leaves_identifier (c : Cursor) :
    (∀ n e, (c.apply n).2 = .error e → (∃ cause, e = .format cause) ∧ ∃ id set,
      n = .gtid id set ∧ GtidSet.parseUnlessBlank (some set) = .error e ∧
        (c.apply n).1 = { c with origin := { c.origin with gtid := some id } } ∧
        ((c.apply n).1 = c ↔ c.origin.gtid = some id)) ∧
      (∀ set e, (c.setExecuted set).2 = .error e → (∃ cause, e = .format cause) ∧
        GtidSet.parseUnlessBlank (some set) = .error e ∧ (c.setExecuted set).1 = c) ∧
      ∀ ops, c.run ops = { c.run (ops.filter accepted) with
        origin := { (c.run (ops.filter accepted)).origin with
          gtid := (last? identifier? ops).or c.origin.gtid } } := by
  refine ⟨fun n e h => ?_, fun set e h => ?_, run_accepted c⟩
  · have herr : (c.perform (.notify n)).2 = .error e := h
    obtain ⟨hread, hafter⟩ := perform_of_error herr
    cases n with
    | gtid id set =>
      have hread : GtidSet.parseUnlessBlank (some set) = .error e := by simpa [set?] using hread
      refine ⟨GtidSet.failsWith_parseUnlessBlank _ e hread, id, set, rfl, hread, hafter, ?_⟩
      show (c.perform (.notify (.gtid id set))).1 = c ↔ _
      rw [hafter, identified_eq_self_iff]
      exact eq_comm
    | _ => cases h
  · have herr : (c.perform (.setExecuted set)).2 = .error e := h
    obtain ⟨hread, hafter⟩ := perform_of_error herr
    have hread : GtidSet.parseUnlessBlank (some set) = .error e := by simpa [set?] using hread
    exact ⟨GtidSet.failsWith_parseUnlessBlank _ e hread, hread, hafter⟩

/-- A set that breaks off within an interval. -/
theorem parseUnlessBlank_unfinished :
    GtidSet.parseUnlessBlank (some "a:1-") = .error (.format (.badInterval "1-")) := by
  decide +kernel

theorem apply_unfinished (c : Cursor) :
    c.apply (.gtid "a:6" "a:1-") =
      (c.identified (some "a:6"), .error (.format (.badInterval "1-"))) := by
  simp only [apply, announce, parseUnlessBlank_unfinished]
  rfl

/-- It is announced to a cursor that has only begun, and then to be set as executed. -/
theorem refusal_leaves_identifier_of_unfinished :
    ∃ e, ((new .default ⟨"bin.000001", 4⟩).apply (.gtid "a:6" "a:1-")).2 = .error e ∧
      ((new .default ⟨"bin.000001", 4⟩).apply (.gtid "a:6" "a:1-")).1.published =
        (new .default ⟨"bin.000001", 4⟩).published ∧
      ((new .default ⟨"bin.000001", 4⟩).setExecuted "a:1-").1 = new .default ⟨"bin.000001", 4⟩ := by
  obtain ⟨hnotify, hset, -⟩ := refusal_leaves_identifier (new .default ⟨"bin.000001", 4⟩)
  have hannounce := congrArg Prod.snd (apply_unfinished (new .default ⟨"bin.000001", 4⟩))
  have hexecuted : ((new .default ⟨"bin.000001", 4⟩).setExecuted "a:1-").2 =
      .error (.format (.badInterval "1-")) := by
    simp only [setExecuted, parseUnlessBlank_unfinished]
  obtain ⟨-, id, set, -, -, hafter, -⟩ := hnotify _ _ hannounce
  refine ⟨_, hannounce, ?_, (hset _ _ hexecuted).2.2⟩
  rw [hafter]

/-- The identifier of an announcement that is refused is noted all the same. -/
theorem refusal_not_without_trace :
    ¬ ∀ (c : Cursor) (n : Notification) (e : Fault),
      (∃ start ops, c = (new .default start).run ops) → (c.apply n).2 = .error e →
        (c.apply n).1 = c := by
  intro h
  have hafter := apply_unfinished (new .default ⟨"bin.000001", 4⟩)
  have hsame := h (new .default ⟨"bin.000001", 4⟩) _ _ ⟨⟨"bin.000001", 4⟩, [], rfl⟩
    (congrArg Prod.snd hafter)
  rw [hafter, identified_eq_self_iff] at hsame
  cases hsame

end Cursor

end BinlogCursor
