/-
Logs: events one behind the other, alone or gathered in transactions, in one file or in files
of growing numbers.

`startingAt_of_split`: reading that starts at a place begins with the first event that lies no
earlier. So it begins with an event when it starts there (`startingAt_place`), and with the one
behind it when it starts where that event ends (`startingAt_next`).
-/
import BinlogCursor.Proofs.PlaceOrder
import Mathlib.Data.List.Chain
import Mathlib.Data.List.TakeWhile

namespace BinlogCursor

/-- An event of a log: where it lies, and how many rows it has. -/
structure LogEvent where
  file : String
  offset : UInt64
  size : UInt64
  rows : UInt32
deriving DecidableEq

/-- A row of a log: its event, and its number in the event. -/
abbrev Row := LogEvent × Nat

namespace LogEvent

/-- Where the event starts. -/
def place (e : LogEvent) : Place :=
  ⟨e.file, e.offset⟩

/-- Where the event ends. -/
def next (e : LogEvent) : Place :=
  ⟨e.file, e.offset + e.size⟩

/-- The event is not empty, and ends within the range of the offsets. -/
structure Proper (e : LogEvent) : Prop where
  nonempty : 1 ≤ e.size.toNat
  ends : e.offset.toNat + e.size.toNat < UInt64.size

/-- The first event ends before the second starts. -/
def Leads (e f : LogEvent) : Prop :=
  e.next.upTo f.place = true

instance (e : LogEvent) : Decidable e.Proper :=
  decidable_of_iff (1 ≤ e.size.toNat ∧ e.offset.toNat + e.size.toNat < UInt64.size)
    ⟨fun h => ⟨h.1, h.2⟩, fun h => ⟨h.nonempty, h.ends⟩⟩

instance (e f : LogEvent) : Decidable (e.Leads f) :=
  inferInstanceAs (Decidable (_ = true))

theorem Proper.place_before_next {e : LogEvent} (h : e.Proper) :
    e.place.before e.next = true := by
  refine Place.before_iff.2 (.inl ⟨rfl, ?_⟩)
  have h₁ := h.nonempty
  have h₂ : e.offset.toNat + e.size.toNat < 18446744073709551616 := h.ends
  rw [UInt64.lt_iff_toNat_lt]
  simp only [place, next, UInt64.toNat_add]
  omega

theorem Leads.place_before {e f : LogEvent} (he : e.Proper) (h : e.Leads f) :
    e.place.before f.place = true :=
  Place.before_of_before_of_upTo he.place_before_next h

theorem Leads.trans {e f g : LogEvent} (hf : f.Proper) (hef : e.Leads f) (hfg : f.Leads g) :
    e.Leads g :=
  Place.upTo_trans hef (Place.upTo_trans (Place.upTo_of_before hf.place_before_next) hfg)

end LogEvent

/-- What an event is to the log. -/
inductive Role
  | single
  | opening
  | body
  | closing
deriving DecidableEq

/-- An event of a log in its role. -/
structure LogEntry where
  role : Role
  event : LogEvent
deriving DecidableEq

/-- The rows of an entry. The events at the ends of a transaction have none to read. -/
def LogEntry.rows (x : LogEntry) : List Row :=
  match x.role with
  | .single | .body => (List.range x.event.rows.toNat).map fun i => (x.event, i)
  | .opening | .closing => []

/-- An event by itself, or a transaction. -/
inductive LogItem
  | single (e : LogEvent)
  | transaction (opening : LogEvent) (body : List LogEvent) (closing : LogEvent)
deriving DecidableEq

namespace LogItem

/-- The events of an item in order. -/
def entries : LogItem → List LogEntry
  | single e => [⟨.single, e⟩]
  | transaction o body c => ⟨.opening, o⟩ :: (body.map (LogEntry.mk .body) ++ [⟨.closing, c⟩])

/-- The event with which an item begins. -/
def first : LogItem → LogEvent
  | single e => e
  | transaction o _ _ => o

/-- The event with which an item ends. -/
def last : LogItem → LogEvent
  | single e => e
  | transaction _ _ c => c

end LogItem

/-- A log: items one behind the other. -/
abbrev Log := List LogItem

namespace Log

/-- The events of a log in order. -/
def entries (log : Log) : List LogEntry :=
  log.flatMap LogItem.entries

/-- The rows of a log in order. -/
def rows (log : Log) : List Row :=
  log.entries.flatMap LogEntry.rows

/-- Every event is proper and starts no earlier than the one before it ends, and the events of a
transaction can be counted. -/
structure WellFormed (log : Log) : Prop where
  proper : ∀ x ∈ log.entries, x.event.Proper
  ordered : log.entries.IsChain fun x y => x.event.Leads y.event
  bounded : ∀ o body c, .transaction o body c ∈ log → body.length < UInt32.size

/-- The events from the first on that lies at a place or behind it. -/
def startingAt (log : Log) (p : Place) : List LogEntry :=
  log.entries.dropWhile fun x => !p.upTo x.event.place

/-- A place from which the whole log is read. -/
def StartsFrom (log : Log) (p : Place) : Prop :=
  ∀ x ∈ log.entries.head?, p.upTo x.event.place = true

instance (log : Log) (p : Place) : Decidable (log.StartsFrom p) :=
  inferInstanceAs (Decidable (∀ x ∈ log.entries.head?, p.upTo x.event.place = true))

@[simp] theorem entries_nil : entries [] = [] := rfl

@[simp] theorem entries_cons (item : LogItem) (log : Log) :
    entries (item :: log) = item.entries ++ entries log := rfl

theorem entries_append (log more : Log) : entries (log ++ more) = entries log ++ entries more :=
  List.flatMap_append

theorem head?_entries_cons (item : LogItem) (log : Log) :
    ∃ role, (entries (item :: log)).head? = some ⟨role, item.first⟩ := by
  cases item with
  | single e => exact ⟨.single, rfl⟩
  | transaction o body c => exact ⟨.opening, rfl⟩

/-! ## Order -/

/-- Any event ends before any later one starts. -/
theorem pairwise_leads {l : List LogEntry} (hp : ∀ x ∈ l, x.event.Proper)
    (hc : l.IsChain fun x y => x.event.Leads y.event) :
    l.Pairwise fun x y => x.event.Leads y.event := by
  induction l with
  | nil => exact .nil
  | cons x l ih =>
    have hl := ih (fun y hy => hp y (by simp [hy])) hc.tail
    refine List.pairwise_cons.2 ⟨fun y hy => ?_, hl⟩
    cases l with
    | nil => exact absurd hy List.not_mem_nil
    -- `x` leads its neighbour, which leads all that are behind it.
    | cons z l =>
      have hz : x.event.Leads z.event := (List.isChain_cons_cons.1 hc).1
      rcases List.mem_cons.1 hy with rfl | hy
      · exact hz
      · exact hz.trans (hp z (by simp)) ((List.pairwise_cons.1 hl).1 y hy)

theorem WellFormed.leads {log : Log} (h : log.WellFormed) {pre post : List LogEntry}
    (hs : log.entries = pre ++ post) {x y : LogEntry} (hx : x ∈ pre) (hy : y ∈ post) :
    x.event.Leads y.event :=
  (List.pairwise_append.1 (hs ▸ pairwise_leads h.proper h.ordered)).2.2 x hx y hy

/-- An item begins before it ends. -/
theorem WellFormed.first_before_last {log : Log} (h : log.WellFormed) {pre rest : Log}
    {item : LogItem} (hs : log = pre ++ item :: rest) :
    item.first.place.before item.last.next = true := by
  have he : log.entries = Log.entries pre ++ (item.entries ++ Log.entries rest) := by
    rw [hs, entries_append, entries_cons]
  cases item with
  | single e =>
    have hp := h.proper ⟨.single, e⟩ (by simp [he, LogItem.entries])
    exact hp.place_before_next
  | transaction o body c =>
    have ho := h.proper ⟨.opening, o⟩ (by simp [he, LogItem.entries])
    have hc := h.proper ⟨.closing, c⟩ (by simp [he, LogItem.entries])
    have hsplit : log.entries = (Log.entries pre ++ [⟨.opening, o⟩]) ++
        (body.map (LogEntry.mk .body) ++ ⟨.closing, c⟩ :: Log.entries rest) := by
      simp [he, LogItem.entries]
    have hoc : o.Leads c := h.leads hsplit (x := ⟨.opening, o⟩) (y := ⟨.closing, c⟩) (by simp)
      (by simp)
    exact Place.before_trans (hoc.place_before ho) hc.place_before_next

/-! ## Where reading starts -/

theorem startingAt_of_split {log : Log} {p : Place} {pre post : List LogEntry}
    (hs : log.entries = pre ++ post) (hpre : ∀ x ∈ pre, p.upTo x.event.place = false)
    (hpost : ∀ x ∈ post.head?, p.upTo x.event.place = true) : log.startingAt p = post := by
  rw [startingAt, hs, List.dropWhile_append_of_pos fun x hx => by simp [hpre x hx]]
  cases post with
  | nil => rfl
  | cons x post => rw [List.dropWhile_cons_of_neg (by simp [hpost x rfl])]

theorem exists_split_startingAt (log : Log) (p : Place) :
    ∃ pre, log.entries = pre ++ log.startingAt p ∧
      (∀ x ∈ pre, p.upTo x.event.place = false) ∧
      ∀ x ∈ (log.startingAt p).head?, p.upTo x.event.place = true := by
  refine ⟨log.entries.takeWhile fun x => !p.upTo x.event.place,
    List.takeWhile_append_dropWhile.symm, fun x hx => ?_, fun x hx => ?_⟩
  · simpa using List.mem_takeWhile_imp hx
  · have hd := List.head?_dropWhile_not (fun x : LogEntry => !p.upTo x.event.place) log.entries
    rw [startingAt, Option.mem_def] at hx
    simpa [hx] using hd

/-- Reading that starts before the log is reading of all of it. -/
theorem startingAt_start {log : Log} {p : Place} (h : log.StartsFrom p) :
    log.startingAt p = log.entries :=
  startingAt_of_split (List.nil_append _).symm (fun _ hx => absurd hx List.not_mem_nil) h

/-- Reading that starts at an event begins with it. -/
theorem startingAt_place {log : Log} (h : log.WellFormed) {pre post : List LogEntry}
    {x : LogEntry} (hs : log.entries = pre ++ x :: post) :
    log.startingAt x.event.place = x :: post := by
  refine startingAt_of_split hs (fun y hy => ?_) fun y hy => ?_
  · have hyx : y.event.Leads x.event := h.leads hs hy (by simp)
    have hb := hyx.place_before (h.proper y (by simp [hs, hy]))
    rw [← Bool.not_eq_true]
    intro hxy
    exact absurd (Place.before_of_upTo_of_before hxy hb) (by simp [Place.before_irrefl])
  · cases hy
    exact Place.upTo_refl _

/-- Reading that starts where an event ends begins with what is behind it. -/
theorem startingAt_next {log : Log} (h : log.WellFormed) {pre post : List LogEntry}
    {x : LogEntry} (hs : log.entries = pre ++ x :: post) :
    log.startingAt x.event.next = post := by
  have hs' : log.entries = (pre ++ [x]) ++ post := by simp [hs]
  refine startingAt_of_split hs' (fun y hy => ?_) fun y hy => ?_
  · rw [← Bool.not_eq_true]
    intro hxy
    have hyx : y.event.place.before x.event.next = true := by
      rcases List.mem_append.1 hy with hy | hy
      · have hl : y.event.Leads x.event := h.leads hs hy (by simp)
        exact Place.before_trans (hl.place_before (h.proper y (by simp [hs, hy])))
          (h.proper x (by simp [hs])).place_before_next
      · rw [List.mem_singleton.1 hy]
        exact (h.proper x (by simp [hs])).place_before_next
    exact absurd (Place.before_of_upTo_of_before hxy hyx) (by simp [Place.before_irrefl])
  · exact h.leads hs' (by simp) (List.mem_of_mem_head? hy)

/-- Reading starts with the same event from any place before it, if none lies between. -/
theorem startingAt_of_upTo {log : Log} {p q : Place} (hpq : p.upTo q = true)
    (hq : ∀ x ∈ (log.startingAt p).head?, q.upTo x.event.place = true) :
    log.startingAt q = log.startingAt p := by
  obtain ⟨pre, hs, hpre, -⟩ := log.exists_split_startingAt p
  refine startingAt_of_split hs (fun x hx => ?_) hq
  rw [← Bool.not_eq_true]
  intro hqx
  exact absurd (Place.upTo_trans hpq hqx) (by simp [hpre x hx])

/-! ## A log -/

/-- A log in two files: a transaction between two events by themselves. -/
def twoFiles : Log :=
  [.single ⟨"bin.000009", 4, 10, 2⟩,
    .transaction ⟨"bin.000009", 14, 5, 0⟩
      [⟨"bin.000009", 19, 6, 2⟩, ⟨"bin.000009", 25, 6, 3⟩] ⟨"bin.000009", 31, 4, 0⟩,
    .single ⟨"bin.000010", 4, 8, 1⟩]

theorem wellFormed_twoFiles : twoFiles.WellFormed where
  proper := by decide
  ordered := by decide
  bounded o body c h := by
    simp only [twoFiles, List.mem_cons, LogItem.transaction.injEq, reduceCtorEq, List.not_mem_nil,
      false_or, or_false] at h
    rw [h.2.1]
    decide

end Log

end BinlogCursor
