/-
Stations: how far a reader of a log has come, and what it calls next.

`exists_moves`: whatever a reader calls next takes it to another station (`Moves`).
`ahead_resumed`: reading that resumes where the item at hand begins, past what is done of it,
comes to the same station and calls the same from there on. `On.moves`: it stays a station on the
log.
-/
import BinlogCursor.Proofs.Reader

namespace BinlogCursor

/-- Where in a log a reader is: between two items, or at an event, or between two events of a
transaction. Of a transaction it knows the events done and those to come. -/
inductive Spot
  | between (p : Place)
  | single (e : LogEvent)
  | opening (o : LogEvent) (todo : List LogEvent) (c : LogEvent)
  | inside (o : LogEvent) (done todo : List LogEvent) (c : LogEvent)
  | body (o : LogEvent) (done : List LogEvent) (e : LogEvent) (todo : List LogEvent) (c : LogEvent)
  | closing (o : LogEvent) (done : List LogEvent) (c : LogEvent)

namespace Spot

/-- From where reading has to resume. -/
def base : Spot → Place
  | between p => p
  | single e => e.place
  | opening o _ _ | inside o _ _ _ | body o _ _ _ _ | closing o _ _ => o.place

/-- The events of the transaction that are done. -/
def done : Spot → List LogEvent
  | between _ | single _ | opening _ _ _ => []
  | inside _ done _ _ | body _ done _ _ _ | closing _ done _ => done

/-- The events of the transaction that are not. -/
def todo : Spot → List LogEvent
  | between _ | single _ | closing _ _ _ => []
  | opening _ todo _ | inside _ _ todo _ => todo
  | body _ _ e todo _ => e :: todo

/-- The item at hand. -/
def items : Spot → Log
  | between _ => []
  | single e => [.single e]
  | opening o todo c => [.transaction o todo c]
  | inside o done todo c => [.transaction o (done ++ todo) c]
  | body o done e todo c => [.transaction o (done ++ e :: todo) c]
  | closing o done c => [.transaction o done c]

/-- The event at hand. -/
def event? : Spot → Option LogEvent
  | between _ | inside _ _ _ _ => none
  | single e | body _ _ e _ _ => some e
  | opening o _ _ => some o
  | closing _ _ c => some c

/-- Whether a transaction is open. -/
def phase : Spot → Phase
  | between _ | single _ | opening _ _ _ => .idle
  | inside _ _ _ _ | body _ _ _ _ _ | closing _ _ _ => .inTransaction

/-- The event at hand is one of those that have rows to read. -/
def AtRows : Spot → Prop
  | single _ | body _ _ _ _ _ => True
  | _ => False

end Spot

/-- How far a reader has come: where it is, the events it has still to pass over, the rows that
are done of the event at hand or the next, and the items to come. -/
structure Station where
  spot : Spot
  events : Nat
  row : Nat
  rest : Log

namespace Station

/-- What is left of a transaction, and what comes behind it. -/
def tail (todo : List LogEvent) (c : LogEvent) (rest : Log) : List LogEntry :=
  todo.map (LogEntry.mk .body) ++ ⟨.closing, c⟩ :: Log.entries rest

/-- What the reader is going to call. -/
def ahead : Station → List Call
  | ⟨.between _, k, j, rest⟩ => script k j (Log.entries rest)
  | ⟨.single e, k, j, rest⟩ => rowCalls e j ++ .finish :: script k 0 (Log.entries rest)
  | ⟨.opening _ todo c, k, j, rest⟩ => .begin :: script k j (tail todo c rest)
  | ⟨.inside _ _ todo c, k, j, rest⟩ => script k j (tail todo c rest)
  | ⟨.body _ _ e todo c, 0, j, rest⟩ =>
    rowCalls e j ++ .finish :: script 0 0 (tail todo c rest)
  | ⟨.body _ _ _ todo c, k + 1, j, rest⟩ => .finish :: script k j (tail todo c rest)
  | ⟨.closing _ _ _, k, j, rest⟩ => .commit :: script k j (Log.entries rest)

/-- Events that are entered and finished, their rows passed over. -/
def passedOver (done : List LogEvent) : List Call :=
  done.flatMap fun e => [.enter e, .finish]

/-- What a reader calls that resumes where the item at hand begins, past what is done of it. -/
def lead (σ : Station) : List Call :=
  match σ.spot with
  | .between _ => []
  | .single e => [.enter e]
  | .opening o _ _ => [.enter o]
  | .inside o done _ _ => .enter o :: .begin :: passedOver done
  | .body o done e _ _ => .enter o :: .begin :: (passedOver done ++ [.enter e])
  | .closing o done c => .enter o :: .begin :: (passedOver done ++ [.enter c])

/-- One call of a reader takes it from one station to another. -/
inductive Moves : Station → Call → Station → Prop
  | enterSingle {p e k j rest} :
    Moves ⟨.between p, k, j, .single e :: rest⟩ (.enter e) ⟨.single e, k, j, rest⟩
  | enterOpening {p o todo c k j rest} :
    Moves ⟨.between p, k, j, .transaction o todo c :: rest⟩ (.enter o)
      ⟨.opening o todo c, k, j, rest⟩
  | begin {o todo c k j rest} :
    Moves ⟨.opening o todo c, k, j, rest⟩ .begin ⟨.inside o [] todo c, k, j, rest⟩
  | enterBody {o done e todo c k j rest} :
    Moves ⟨.inside o done (e :: todo) c, k, j, rest⟩ (.enter e) ⟨.body o done e todo c, k, j, rest⟩
  | enterClosing {o done c k j rest} :
    Moves ⟨.inside o done [] c, k, j, rest⟩ (.enter c) ⟨.closing o done c, k, j, rest⟩
  | rowSingle {e k j rest} (h : j < e.rows.toNat) :
    Moves ⟨.single e, k, j, rest⟩ (.row e j) ⟨.single e, k, j + 1, rest⟩
  | rowBody {o done e todo c j rest} (h : j < e.rows.toNat) :
    Moves ⟨.body o done e todo c, 0, j, rest⟩ (.row e j) ⟨.body o done e todo c, 0, j + 1, rest⟩
  | finishSingle {e k j rest} :
    Moves ⟨.single e, k, j, rest⟩ .finish ⟨.between e.next, k, 0, rest⟩
  | finishBody {o done e todo c j rest} :
    Moves ⟨.body o done e todo c, 0, j, rest⟩ .finish ⟨.inside o (done ++ [e]) todo c, 0, 0, rest⟩
  | passBody {o done e todo c k j rest} :
    Moves ⟨.body o done e todo c, k + 1, j, rest⟩ .finish
      ⟨.inside o (done ++ [e]) todo c, k, j, rest⟩
  | commit {o done c k j rest} :
    Moves ⟨.closing o done c, k, j, rest⟩ .commit ⟨.between c.next, k, j, rest⟩

/-! ## What is called -/

theorem rowCalls_of_lt {e : LogEvent} {i : Nat} (h : i < e.rows.toNat) :
    rowCalls e i = .row e i :: rowCalls e (i + 1) := by
  have hlen : e.rows.toNat - i = e.rows.toNat - (i + 1) + 1 := by omega
  rw [rowCalls, hlen, List.range'_succ, List.map_cons]
  rfl

theorem rowCalls_of_le {e : LogEvent} {i : Nat} (h : e.rows.toNat ≤ i) : rowCalls e i = [] := by
  rw [rowCalls, Nat.sub_eq_zero_of_le h]
  rfl

theorem entries_transaction (o : LogEvent) (body : List LogEvent) (c : LogEvent) (rest : Log) :
    Log.entries (.transaction o body c :: rest) = ⟨.opening, o⟩ :: tail body c rest := by
  simp [LogItem.entries, tail]

/-- Whatever a reader calls next takes it to another station. -/
theorem exists_moves {σ : Station} {a : Call} {calls : List Call} (h : σ.ahead = a :: calls) :
    ∃ σ', Moves σ a σ' ∧ σ'.ahead = calls := by
  obtain ⟨spot, k, j, rest⟩ := σ
  cases spot with
  | between p =>
    cases rest with
    | nil => cases h
    | cons item rest =>
      cases item with
      | single e =>
        cases h
        exact ⟨_, .enterSingle, rfl⟩
      | transaction o todo c =>
        simp only [ahead, entries_transaction] at h
        cases h
        exact ⟨_, .enterOpening, rfl⟩
  | single e =>
    by_cases hj : j < e.rows.toNat
    · simp only [ahead, rowCalls_of_lt hj] at h
      cases h
      exact ⟨_, .rowSingle hj, rfl⟩
    · simp only [ahead, rowCalls_of_le (Nat.le_of_not_lt hj)] at h
      cases h
      exact ⟨_, .finishSingle, rfl⟩
  | opening o todo c =>
    cases h
    exact ⟨_, .begin, rfl⟩
  | inside o done todo c =>
    cases todo with
    | nil =>
      cases h
      exact ⟨_, .enterClosing, rfl⟩
    | cons e todo =>
      cases k with
      | zero =>
        cases h
        exact ⟨_, .enterBody, rfl⟩
      | succ k =>
        cases h
        exact ⟨_, .enterBody, rfl⟩
  | body o done e todo c =>
    cases k with
    | zero =>
      by_cases hj : j < e.rows.toNat
      · simp only [ahead, rowCalls_of_lt hj] at h
        cases h
        exact ⟨_, .rowBody hj, rfl⟩
      · simp only [ahead, rowCalls_of_le (Nat.le_of_not_lt hj)] at h
        cases h
        exact ⟨_, .finishBody, rfl⟩
    | succ k =>
      cases h
      exact ⟨_, .passBody, rfl⟩
  | closing o done c =>
    cases h
    exact ⟨_, .commit, rfl⟩

theorem script_passedOver (l : List LogEvent) (k j : Nat) (more : List LogEntry) :
    script (l.length + k) j (l.map (LogEntry.mk .body) ++ more) =
      passedOver l ++ script k j more := by
  induction l with
  | nil => simp [passedOver]
  | cons e l ih =>
    have hlen : (e :: l).length + k = (l.length + k) + 1 := by
      simp only [List.length_cons]
      omega
    rw [hlen, List.map_cons, List.cons_append, script, ih]
    rfl

/-- Reading that resumes where a transaction begins passes over what is done of it. -/
theorem script_transaction (o : LogEvent) (done todo : List LogEvent) (c : LogEvent) (rest : Log)
    (k j : Nat) :
    script (done.length + k) j (Log.entries (.transaction o (done ++ todo) c :: rest)) =
      .enter o :: .begin :: (passedOver done ++ script k j (tail todo c rest)) := by
  rw [entries_transaction, script, ← script_passedOver]
  simp only [tail, List.map_append, List.append_assoc]

/-- Where reading is that resumes at the item at hand, with what is done of it to pass over. -/
def resumed (σ : Station) : Station :=
  ⟨.between σ.spot.base, σ.spot.done.length + σ.events, σ.row, σ.spot.items ++ σ.rest⟩

/-- Reading that resumes where the item at hand begins comes to the same station. -/
theorem ahead_resumed (σ : Station) : σ.resumed.ahead = σ.lead ++ σ.ahead := by
  obtain ⟨spot, k, j, rest⟩ := σ
  cases spot with
  | between p => simp [resumed, Spot.done, Spot.items, lead, ahead]
  | single e => simp [resumed, Spot.done, Spot.items, lead, ahead, LogItem.entries, script]
  | opening o todo c => exact script_transaction o [] todo c rest k j
  | inside o done todo c => exact script_transaction o done todo c rest k j
  | body o done e todo c =>
    refine (script_transaction o done (e :: todo) c rest k j).trans ?_
    simp only [lead, List.cons_append, List.append_assoc, List.nil_append]
    cases k <;> rfl
  | closing o done c =>
    have ht := script_transaction o done [] c rest k j
    rw [List.append_nil] at ht
    refine ht.trans ?_
    simp only [lead, List.cons_append, List.append_assoc, List.nil_append]
    rfl

theorem rowsOf_passedOver (l : List LogEvent) : rowsOf (passedOver l) = [] := by
  induction l with
  | nil => rfl
  | cons e l ih => exact ih

/-- On the way to the station no row is passed on. -/
theorem rowsOf_lead (σ : Station) : rowsOf σ.lead = [] := by
  obtain ⟨spot, k, j, rest⟩ := σ
  cases spot <;> simp [lead, Call.rows, rowsOf_passedOver]

/-- Reading that resumes passes on the same rows. -/
theorem rowsOf_ahead_resumed (σ : Station) : rowsOf σ.resumed.ahead = rowsOf σ.ahead := by
  rw [ahead_resumed, rowsOf_append, rowsOf_lead, List.nil_append]

/-! ## On a log -/

/-- A station on a log: the item at hand and those to come are its end, and with them begins what
is read from the place where reading has to resume. -/
structure On (log : Log) (σ : Station) : Prop where
  split : ∃ pre, log = pre ++ (σ.spot.items ++ σ.rest)
  resumes : log.startingAt σ.spot.base = Log.entries (σ.spot.items ++ σ.rest)

variable {log : Log} {σ σ' : Station}

/-- Within an item, reading has to resume at the same place. -/
theorem On.of_eq (h : σ.On log) (hb : σ'.spot.base = σ.spot.base)
    (hi : σ'.spot.items ++ σ'.rest = σ.spot.items ++ σ.rest) : σ'.On log :=
  ⟨by rw [hi]; exact h.split, by rw [hi, hb]; exact h.resumes⟩

/-- At the first event of an item, reading has to resume there. -/
theorem On.enter (hlog : log.WellFormed) {item : LogItem} {rest : Log}
    (hs : ∃ pre, log = pre ++ item :: rest) :
    log.startingAt item.first.place = Log.entries (item :: rest) := by
  obtain ⟨pre, hs⟩ := hs
  have he : log.entries = Log.entries pre ++ Log.entries (item :: rest) := by
    rw [hs, Log.entries_append]
  cases item with
  | single e => exact Log.startingAt_place hlog he
  | transaction o body c =>
    rw [entries_transaction] at he ⊢
    exact Log.startingAt_place hlog he

/-- Behind the last event of an item, reading has to resume there. -/
theorem On.leave (hlog : log.WellFormed) {item : LogItem} {rest : Log}
    (hs : ∃ pre, log = pre ++ item :: rest) :
    log.startingAt item.last.next = Log.entries rest := by
  obtain ⟨pre, hs⟩ := hs
  have he : log.entries = Log.entries pre ++ (item.entries ++ Log.entries rest) := by
    rw [hs, Log.entries_append, Log.entries_cons]
  cases item with
  | single e => exact Log.startingAt_next hlog he
  | transaction o body c =>
    have hsplit : log.entries =
        (Log.entries pre ++ (⟨.opening, o⟩ :: body.map (LogEntry.mk .body))) ++
          ⟨.closing, c⟩ :: Log.entries rest := by
      simpa only [LogItem.entries, List.append_assoc, List.cons_append, List.nil_append] using he
    exact Log.startingAt_next hlog hsplit

theorem On.behind {item : LogItem} {rest : Log} (hs : ∃ pre, log = pre ++ item :: rest) :
    ∃ pre, log = pre ++ rest := by
  obtain ⟨pre, rfl⟩ := hs
  exact ⟨pre ++ [item], by simp⟩

/-- The station after a call is on the log as well. -/
theorem On.moves (hlog : log.WellFormed) {a : Call} (h : σ.On log) (hm : Moves σ a σ') :
    σ'.On log := by
  cases hm with
  | enterSingle => exact ⟨h.split, On.enter hlog h.split⟩
  | enterOpening => exact ⟨h.split, On.enter hlog h.split⟩
  | begin => exact h.of_eq rfl rfl
  | enterBody => exact h.of_eq rfl rfl
  | enterClosing => exact h.of_eq rfl (by simp [Spot.items])
  | rowSingle => exact h.of_eq rfl rfl
  | rowBody => exact h.of_eq rfl rfl
  | finishSingle => exact ⟨On.behind h.split, On.leave hlog h.split⟩
  | finishBody => exact h.of_eq rfl (by simp [Spot.items])
  | passBody => exact h.of_eq rfl (by simp [Spot.items])
  | commit => exact ⟨On.behind h.split, On.leave hlog h.split⟩

/-- Reading of a log that starts before it. -/
theorem on_start {p : Place} {k j : Nat} (h : log.StartsFrom p) :
    On log ⟨.between p, k, j, log⟩ :=
  ⟨⟨[], rfl⟩, Log.startingAt_start h⟩

/-- Reading that resumes where the item at hand begins. -/
theorem On.resume {k j : Nat} (h : σ.On log) :
    On log ⟨.between σ.spot.base, k, j, σ.spot.items ++ σ.rest⟩ :=
  ⟨h.split, h.resumes⟩

/-- Reading that goes on at a later place, but not behind the next event. -/
theorem On.jump {p q : Place} {k j : Nat} {rest : Log} (h : On log ⟨.between p, k, j, rest⟩)
    (hpq : p.upTo q = true) (hq : ∀ x ∈ (Log.entries rest).head?, q.upTo x.event.place = true) :
    On log ⟨.between q, k, j, rest⟩ := by
  refine ⟨h.split, ?_⟩
  have hr : log.startingAt p = Log.entries rest := h.resumes
  rw [← hr] at hq
  exact (Log.startingAt_of_upTo hpq hq).trans hr

/-- The next event lies no earlier than where reading has to resume. -/
theorem On.base_upTo {p : Place} {k j : Nat} {rest : Log} (h : On log ⟨.between p, k, j, rest⟩)
    {x : LogEntry} (hx : x ∈ (Log.entries rest).head?) : p.upTo x.event.place = true := by
  obtain ⟨pre, -, -, hp⟩ := log.exists_split_startingAt p
  have hr : log.startingAt p = Log.entries rest := h.resumes
  exact hp x (hr ▸ hx)

end Station

end BinlogCursor
