/-
The grammar of GTID sets: entries with commas between them, each a server and, behind colons, its
intervals.

`parse_eq_ok_iff`: without its blanks, a text is read if and only if it spells some entries, and
what is read is all of these put together. Any other text is refused for its form
(`failsWith_parse`). There is one way only to read a text (`Spelled.unique`).
-/
import BinlogCursor.Gtid.Set
import BinlogCursor.Proofs.IntervalGrammar

namespace BinlogCursor.GtidSet

/-! ## Entries -/

/-- An entry spells a server, which is not empty and without the characters that would divide it,
and behind a colon its intervals. -/
inductive EntrySpelled : List Char → String × List Interval → Prop
  | entry {server : String} {ranges : List Char} {intervals : List Interval}
      (hne : server.toList ≠ []) (hcolon : ':' ∉ server.toList) (hcomma : ',' ∉ server.toList)
      (hranges : Text.Listed ':' Interval.Spelled ranges intervals) :
      EntrySpelled (server.toList ++ ':' :: ranges) (server, intervals)

theorem EntrySpelled.comma_not_mem {cs : List Char} {e : String × List Interval}
    (h : EntrySpelled cs e) : ',' ∉ cs := by
  intro hc
  cases h with
  | entry _ _ hcomma hranges =>
    rcases List.mem_append.1 hc with hc | hc
    · exact hcomma hc
    · rcases List.mem_cons.1 hc with hc | hc
      · exact absurd hc (by decide)
      · rcases IntervalSet.mem_of_listed hranges hc with hd | he | he
        · exact absurd hd (by decide)
        · exact absurd he (by decide)
        · exact absurd he (by decide)

/-- An entry is divided by its first colon. -/
theorem entrySpelled_iff {cs : List Char} {e : String × List Interval} :
    EntrySpelled cs e ↔ ∃ p ∈ Text.cutFirst ':' cs, p.1 = e.1.toList ∧ p.1 ≠ [] ∧ ',' ∉ p.1 ∧
      Text.Listed ':' Interval.Spelled p.2 e.2 := by
  constructor
  · intro h
    cases h with
    | entry hne hcolon hcomma hranges =>
      exact ⟨_, Text.cutFirst_eq_some_iff.2 ⟨rfl, hcolon⟩, rfl, hne, hcomma, hranges⟩
  · obtain ⟨server, intervals⟩ := e
    rintro ⟨⟨_, ranges⟩, hcut, rfl, hne, hcomma, hranges⟩
    obtain ⟨rfl, hcolon⟩ := Text.cutFirst_eq_some_iff.1 hcut
    exact .entry hne hcolon hcomma hranges

instance (cs : List Char) (e : String × List Interval) : Decidable (EntrySpelled cs e) :=
  decidable_of_iff _ entrySpelled_iff.symm

theorem EntrySpelled.unique {cs : List Char} {e f : String × List Interval}
    (he : EntrySpelled cs e) (hf : EntrySpelled cs f) : e = f := by
  obtain ⟨p, hp, hpe, -, -, hranges⟩ := entrySpelled_iff.1 he
  obtain ⟨q, hq, hqf, -, -, hranges'⟩ := entrySpelled_iff.1 hf
  obtain rfl := Option.mem_unique hp hq
  refine Prod.ext (String.toList_inj.1 (hpe.symm.trans hqf)) ?_
  exact hranges.unique (fun _ _ => Interval.Spelled.colon_not_mem)
    (fun _ _ _ => Interval.Spelled.unique) hranges'

/-- An entry is read from the texts that spell it, its intervals as a set. -/
theorem readEntry_eq_ok_iff {cs : List Char} (hcomma : ',' ∉ cs) {e : String × IntervalSet} :
    readEntry cs = .ok e ↔ ∃ l, EntrySpelled cs (e.1, l) ∧ IntervalSet.ofList l = e.2 := by
  obtain ⟨name, s⟩ := e
  simp only [readEntry, entrySpelled_iff]
  cases hcut : Text.cutFirst ':' cs with
  | none => simp
  | some p =>
    obtain ⟨server, ranges⟩ := p
    have hserver : ',' ∉ server := fun h =>
      hcomma ((Text.cutFirst_eq_some_iff.1 hcut).1 ▸ List.mem_append_left _ h)
    by_cases hne : server = []
    · simp [hne]
    · simp only [List.isEmpty_iff, hne, if_false, Outcome.bind_ok_iff, Outcome.pure_ok_iff,
        IntervalSet.read_eq_ok_iff]
      constructor
      · rintro ⟨_, ⟨l, hl, rfl⟩, heq⟩
        cases heq
        exact ⟨l, ⟨_, rfl, String.toList_ofList.symm, hne, hserver, hl⟩, rfl⟩
      · rintro ⟨l, ⟨_, hp, hname, -, -, hl⟩, rfl⟩
        cases hp
        have hname : server = name.toList := hname
        exact ⟨_, ⟨l, hl, rfl⟩, by rw [hname, String.ofList_toList]⟩

/-- An entry is added from the texts that spell it. -/
theorem addEntry_eq_ok_iff {cs : List Char} (hcomma : ',' ∉ cs) {g g' : GtidSet} :
    g.addEntry cs = .ok g' ↔
      ∃ e, EntrySpelled cs e ∧ g.add e.1 (IntervalSet.ofList e.2) = g' := by
  simp only [addEntry, Outcome.bind_ok_iff, Outcome.pure_ok_iff, readEntry_eq_ok_iff hcomma]
  constructor
  · rintro ⟨⟨server, _⟩, ⟨l, hl, rfl⟩, rfl⟩
    exact ⟨_, hl, rfl⟩
  · rintro ⟨⟨server, l⟩, hl, rfl⟩
    exact ⟨(server, IntervalSet.ofList l), ⟨l, hl, rfl⟩, rfl⟩

theorem failsWith_addEntry (g : GtidSet) (cs : List Char) :
    Outcome.FailsWith Fault.IsFormat (g.addEntry cs) := by
  refine Outcome.FailsWith.bind ?_ fun _ => Outcome.failsWith_ok _
  unfold readEntry
  split
  · exact Outcome.failsWith_error ⟨_, rfl⟩
  · split
    · exact Outcome.failsWith_error ⟨_, rfl⟩
    · exact (IntervalSet.failsWith_read _).bind fun _ => Outcome.failsWith_ok _

/-! ## Sets -/

/-- A set is spelled by nothing at all, or by entries with commas between them. -/
inductive Spelled : List Char → List (String × List Interval) → Prop
  | blank : Spelled [] []
  | entries {cs : List Char} {es : List (String × List Interval)}
      (h : Text.Listed ',' EntrySpelled cs es) : Spelled cs es

theorem listed_entries_iff {cs : List Char} {es : List (String × List Interval)} :
    Text.Listed ',' EntrySpelled cs es ↔ List.Forall₂ EntrySpelled (Text.split ',' cs) es :=
  Text.listed_iff_forall₂ fun _ _ => EntrySpelled.comma_not_mem

instance (cs : List Char) (es : List (String × List Interval)) :
    Decidable (Text.Listed ',' EntrySpelled cs es) :=
  decidable_of_iff _ listed_entries_iff.symm

instance (cs : List Char) (es : List (String × List Interval)) : Decidable (Spelled cs es) :=
  decidable_of_iff (cs = [] ∧ es = [] ∨ Text.Listed ',' EntrySpelled cs es) (by
    constructor
    · rintro (⟨rfl, rfl⟩ | h)
      · exact .blank
      · exact .entries h
    · rintro (_ | h)
      · exact .inl ⟨rfl, rfl⟩
      · exact .inr h)

/-- The set with the intervals of further entries. -/
def addAll (g : GtidSet) (es : List (String × List Interval)) : GtidSet :=
  es.foldl (fun g e => g.add e.1 (IntervalSet.ofList e.2)) g

theorem intervalsOf?_add (g : GtidSet) (server : String) (s : IntervalSet) (t : String) :
    (g.add server s).intervalsOf? t =
      if t = server then some (((g.intervalsOf? server).map (·.union s)).getD s)
      else g.intervalsOf? t := by
  unfold add
  cases g.intervalsOf? server with
  | none => exact TextMap.get?_insert g.servers server s t
  | some present => exact TextMap.get?_insert g.servers server (present.union s) t

/-- The servers of a set to which entries are added are its own and those of the entries. -/
theorem isSome_intervalsOf?_addAll (g : GtidSet) (es : List (String × List Interval))
    (server : String) : ((g.addAll es).intervalsOf? server).isSome = true ↔
      (g.intervalsOf? server).isSome = true ∨ server ∈ es.map Prod.fst := by
  induction es generalizing g with
  | nil => simp [addAll]
  | cons e es ih =>
    rw [addAll, List.foldl_cons, ← addAll, ih, intervalsOf?_add]
    by_cases hs : server = e.1
    · simp [hs]
    · simp [hs]

theorem isEmpty_addAll {es : List (String × List Interval)} (h : es ≠ []) (g : GtidSet) :
    (g.addAll es).isEmpty = false := by
  cases es with
  | nil => exact absurd rfl h
  | cons e es =>
    have hsome := (isSome_intervalsOf?_addAll g (e :: es) e.1).2 (.inr (by simp))
    rw [isEmpty, TextMap.isEmpty, List.isEmpty_eq_false_iff]
    intro hnil
    simp [intervalsOf?, TextMap.get?, hnil, TextMap.lookup] at hsome

theorem foldlM_addEntry_eq_ok_iff {pieces : List (List Char)} (hcomma : ∀ p ∈ pieces, ',' ∉ p)
    {g g' : GtidSet} : pieces.foldlM addEntry g = .ok g' ↔
      ∃ es, List.Forall₂ EntrySpelled pieces es ∧ g.addAll es = g' := by
  induction pieces generalizing g with
  | nil => simp [addAll, Outcome.pure_ok_iff]
  | cons p pieces ih =>
    have ih := @ih fun q hq => hcomma q (by simp [hq])
    simp only [List.foldlM_cons, Outcome.bind_ok_iff, addEntry_eq_ok_iff (hcomma p (by simp)), ih]
    constructor
    · rintro ⟨_, ⟨e, he, rfl⟩, es, hes, rfl⟩
      exact ⟨e :: es, .cons he hes, rfl⟩
    · rintro ⟨_, hes, rfl⟩
      cases hes with
      | cons he hes => exact ⟨_, ⟨_, he, rfl⟩, _, hes, rfl⟩

/-- No entries are spelled by nothing. -/
theorem not_listed_nil (es : List (String × List Interval)) :
    ¬ Text.Listed ',' EntrySpelled [] es := by
  intro h
  obtain ⟨e, rest, he, -, -⟩ := List.forall₂_cons_left_iff.1 (listed_entries_iff.1 h)
  generalize hcs : ([] : List Char) = cs at he
  cases he
  simp at hcs

/-- **Reading.** A set is read exactly from the texts that spell some entries, blanks aside, and it
is what all of these entries come to. -/
theorem parse_eq_ok_iff {s : String} {g : GtidSet} : parse s = .ok g ↔
    ∃ es, Spelled (Text.squeeze s.toList) es ∧ empty.addAll es = g := by
  simp only [parse]
  generalize Text.squeeze s.toList = cs
  split
  · next hempty =>
    rw [List.isEmpty_iff] at hempty
    subst hempty
    constructor
    · intro h
      cases h
      exact ⟨[], .blank, rfl⟩
    · rintro ⟨es, hes, rfl⟩
      cases hes with
      | blank => rfl
      | entries h => exact absurd h (not_listed_nil es)
  · next hne =>
    rw [List.isEmpty_iff] at hne
    rw [foldlM_addEntry_eq_ok_iff fun p hp hc => (Text.mem_of_mem_split hp _ hc).2 rfl]
    simp only [← listed_entries_iff]
    constructor
    · rintro ⟨es, hes, rfl⟩
      exact ⟨es, .entries hes, rfl⟩
    · rintro ⟨es, hes, rfl⟩
      cases hes with
      | blank => exact absurd rfl hne
      | entries h => exact ⟨es, h, rfl⟩

theorem failsWith_parse (s : String) : Outcome.FailsWith Fault.IsFormat (parse s) := by
  simp only [parse]
  split
  · exact Outcome.failsWith_ok _
  · exact Outcome.FailsWith.foldlM (fun g cs _ => failsWith_addEntry g cs) _

/-- There is one way only to read a text. -/
theorem Spelled.unique {cs : List Char} {es fs : List (String × List Interval)}
    (he : Spelled cs es) (hf : Spelled cs fs) : es = fs := by
  cases he with
  | blank =>
    cases hf with
    | blank => rfl
    | entries h => exact absurd h (not_listed_nil fs)
  | entries h =>
    cases hf with
    | blank => exact absurd h (not_listed_nil es)
    | entries h' =>
      exact h.unique (fun _ _ => EntrySpelled.comma_not_mem) (fun _ _ _ => EntrySpelled.unique) h'

end BinlogCursor.GtidSet
