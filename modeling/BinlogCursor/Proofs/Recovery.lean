/-
The record from which a history is recovered.

`exists_recoveryPoint`: among records that can all be compared with the target, the search finds
the last one at or before it, whatever their order. `recoveryPoint_eq_error_iff`: it fails at the
first record that cannot be compared. In a history, where each record is at or before the next,
what is at or before the target is a beginning of the list, and the record that is found is its end
(`recovers_end_of_beginning`).
-/
import BinlogCursor.Proofs.ComparisonOrder
import BinlogCursor.Proofs.GtidText
import Mathlib.Data.List.Chain
import Mathlib.Data.List.Induction

namespace BinlogCursor

/-- In a chain, each element is related to all that follow, if the relation is transitive on it. -/
theorem pairwise_of_isChain {α : Type} {R : α → α → Prop} {l : List α}
    (trans : ∀ x ∈ l, ∀ y ∈ l, ∀ z ∈ l, R x y → R y z → R x z) (h : l.IsChain R) :
    l.Pairwise R := by
  have : Trans (fun x y => x ∈ l ∧ y ∈ l ∧ R x y) (fun x y => x ∈ l ∧ y ∈ l ∧ R x y)
      (fun x y => x ∈ l ∧ y ∈ l ∧ R x y) :=
    ⟨fun ⟨hx, hy, hxy⟩ ⟨_, hz, hyz⟩ => ⟨hx, hz, trans _ hx _ hy _ hz hxy hyz⟩⟩
  exact (List.IsChain.iff_mem.1 h).pairwise.imp fun hxy => hxy.2.2

namespace Comparison

variable {c : Comparison} {records : List Position} {target : Position}

/-! ## One record more -/

theorem recoveryPoint_concat (c : Comparison) (records : List Position) (r target : Position) :
    c.recoveryPoint (records ++ [r]) target =
      c.recoveryPoint records target >>= fun latest =>
        c.recoveryStep target latest (records.length, r) := by
  have hlength : (List.range records.length).length = records.length := List.length_range
  simp only [recoveryPoint, List.length_append, List.length_cons, List.length_nil, Nat.zero_add,
    List.range_succ, List.zip_append hlength, List.foldlM_append, List.zip_cons_cons,
    List.zip_nil_left, List.foldlM_cons, List.foldlM_nil, bind_pure]

theorem recoveryStep_of_compare {latest : Option (Nat × Position)} {k : Nat} {r : Position}
    {s : Standing} (h : c.compare r target = .ok s) :
    c.recoveryStep target latest (k, r) = .ok (if s.isLE then some (k, r) else latest) := by
  simp only [recoveryStep, isLE, h]
  rfl

theorem recoveryStep_of_error {latest : Option (Nat × Position)} {k : Nat} {r : Position}
    {e : Fault} (h : c.compare r target = .error e) :
    c.recoveryStep target latest (k, r) = .error e := by
  simp only [recoveryStep, isLE, h]
  rfl

/-- What has failed fails with more records, too. -/
theorem recoveryPoint_append_of_error {e : Fault} (h : c.recoveryPoint records target = .error e)
    (more : List Position) : c.recoveryPoint (records ++ more) target = .error e := by
  induction more using List.reverseRecOn with
  | nil => rwa [List.append_nil]
  | append_singleton more r ih =>
    rw [← List.append_assoc, recoveryPoint_concat, ih]
    rfl

/-! ## Any list of records -/

/-- The last record at or before the target, with its place in the list, if there is any. -/
inductive Latest (c : Comparison) (target : Position) :
    List Position → Option (Nat × Position) → Prop
  | none {records : List Position} (h : ∀ q ∈ records, c.isLE q target = .ok false) :
    Latest c target records none
  | some {before after : List Position} {r : Position} (h : c.isLE r target = .ok true)
      (ha : ∀ q ∈ after, c.isLE q target = .ok false) :
    Latest c target (before ++ r :: after) (some (before.length, r))

/-- A record more that is not at or before the target changes nothing. -/
theorem Latest.concat {latest : Option (Nat × Position)} (h : Latest c target records latest)
    {r : Position} (hr : c.isLE r target = .ok false) :
    Latest c target (records ++ [r]) latest := by
  cases h with
  | none h =>
    refine .none fun q hq => ?_
    rcases List.mem_append.1 hq with hq | hq
    · exact h q hq
    · exact List.mem_singleton.1 hq ▸ hr
  | @some before after x h ha =>
    rw [List.append_assoc, List.cons_append]
    refine .some h fun q hq => ?_
    rcases List.mem_append.1 hq with hq | hq
    · exact ha q hq
    · exact List.mem_singleton.1 hq ▸ hr

/-- If all records can be compared, the last one at or before the target is found. -/
theorem exists_recoveryPoint (h : ∀ q ∈ records, ∃ s, c.compare q target = .ok s) :
    ∃ latest, c.recoveryPoint records target = .ok latest ∧ Latest c target records latest := by
  induction records using List.reverseRecOn with
  | nil => exact ⟨none, rfl, .none fun q hq => absurd hq List.not_mem_nil⟩
  | append_singleton records r ih =>
    obtain ⟨latest, hlatest, hl⟩ := ih fun q hq => h q (by simp [hq])
    obtain ⟨s, hs⟩ := h r (by simp)
    have hle : c.isLE r target = .ok s.isLE := by
      rw [isLE, hs]
      rfl
    rw [recoveryPoint_concat, hlatest]
    refine ⟨_, recoveryStep_of_compare hs, ?_⟩
    cases hb : s.isLE with
    | true => exact .some (hb ▸ hle) fun q hq => absurd hq List.not_mem_nil
    | false => exact hl.concat (hb ▸ hle)

/-- A record that cannot be compared is reported, if all before it can be. -/
theorem recoveryPoint_of_error {before after : List Position} {r : Position} {e : Fault}
    (hb : ∀ q ∈ before, ∃ s, c.compare q target = .ok s) (hr : c.compare r target = .error e) :
    c.recoveryPoint (before ++ r :: after) target = .error e := by
  obtain ⟨latest, hlatest, -⟩ := exists_recoveryPoint hb
  have hfails : c.recoveryPoint (before ++ [r]) target = .error e := by
    rw [recoveryPoint_concat, hlatest]
    exact recoveryStep_of_error hr
  have hmore := recoveryPoint_append_of_error hfails after
  rwa [List.append_assoc] at hmore

theorem recoveryPoint_eq_error_iff {e : Fault} :
    c.recoveryPoint records target = .error e ↔ ∃ before r after,
      records = before ++ r :: after ∧ (∀ q ∈ before, ∃ s, c.compare q target = .ok s) ∧
        c.compare r target = .error e := by
  constructor
  · intro h
    rcases Outcome.forall_ok_or_first_error (c.compare · target) records with
      hall | ⟨before, r, after, e', rfl, hb, hr⟩
    · obtain ⟨latest, hlatest, -⟩ := exists_recoveryPoint hall
      rw [hlatest] at h
      cases h
    · rw [recoveryPoint_of_error hb hr] at h
      cases h
      exact ⟨before, r, after, rfl, hb, hr⟩
  · rintro ⟨before, r, after, rfl, hb, hr⟩
    exact recoveryPoint_of_error hb hr

theorem exists_recoveryPoint_error_iff :
    (∃ e, c.recoveryPoint records target = .error e) ↔
      ∃ r ∈ records, ∃ e, c.compare r target = .error e := by
  constructor
  · rintro ⟨e, he⟩
    obtain ⟨before, r, after, rfl, -, hr⟩ := recoveryPoint_eq_error_iff.1 he
    exact ⟨r, by simp, e, hr⟩
  · rintro ⟨r, hmem, e, hr⟩
    rcases Outcome.forall_ok_or_first_error (c.compare · target) records with
      hall | ⟨before, x, after, e', rfl, hb, hx⟩
    · obtain ⟨s, hs⟩ := hall r hmem
      rw [hs] at hr
      cases hr
    · exact ⟨e', recoveryPoint_of_error hb hx⟩

/-! ## Histories -/

/-- A history and a target to look for in it: sets that were read, no two servers, and each record
at or before the next. -/
structure History (c : Comparison) (records : List Position) (target : Position) : Prop where
  parsed : ∀ p ∈ target :: records, p.Parsed
  server : ∀ p ∈ target :: records, ∀ q ∈ target :: records, p.SharesServer q
  ordered : records.IsChain fun p q => c.isLE p q = .ok true

namespace History

theorem isLE_trans (h : c.History records target) {p q r : Position}
    (hp : p ∈ target :: records) (hq : q ∈ target :: records) (hr : r ∈ target :: records)
    (hpq : c.isLE p q = .ok true) (hqr : c.isLE q r = .ok true) : c.isLE p r = .ok true := by
  obtain ⟨s, hs, hsle⟩ := c.isLE_eq_true_iff.1 hpq
  obtain ⟨t, ht, htle⟩ := c.isLE_eq_true_iff.1 hqr
  obtain ⟨u, hu, hule, -⟩ := c.compare_trans (h.parsed p hp).wellFormed (h.parsed q hq).wellFormed
    (h.parsed r hr).wellFormed (h.server p hp q hq) (h.server q hq r hr) (h.server p hp r hr)
    hs hsle ht htle
  exact c.isLE_eq_true_iff.2 ⟨u, hu, hule⟩

/-- Each record is at or before all that follow. -/
theorem pairwise (h : c.History records target) :
    records.Pairwise fun p q => c.isLE p q = .ok true :=
  pairwise_of_isChain (fun _ hp _ hq _ hr => h.isLE_trans (.tail _ hp) (.tail _ hq) (.tail _ hr))
    h.ordered

/-- With a record, all before it are at or before the target. -/
theorem isLE_of_before {before after : List Position} {r : Position}
    (h : c.History (before ++ r :: after) target) {q : Position} (hq : q ∈ before) :
    c.isLE q r = .ok true ∧ (c.isLE r target = .ok true → c.isLE q target = .ok true) := by
  have hqr : c.isLE q r = .ok true :=
    (List.pairwise_append.1 h.pairwise).2.2 q hq r (List.mem_cons_self ..)
  exact ⟨hqr, h.isLE_trans (by simp [hq]) (by simp) (by simp) hqr⟩

end History

/-- **Looking up a history.** The search fails exactly when some record cannot be compared with the
target, and then for the first of these; none of them stands before a record that is at or before
the target. Otherwise no record is at or before the target and nothing is found, or the records at
or before the target are those up to some record, which is found, and all before it are at or
before it. -/
theorem recovers_end_of_beginning (h : c.History records target) :
    ((∃ e, c.recoveryPoint records target = .error e) ↔
        ∃ r ∈ records, ∃ e, c.compare r target = .error e) ∧
      (∀ e, c.recoveryPoint records target = .error e ↔ ∃ before r after,
        records = before ++ r :: after ∧ (∀ q ∈ before, ∃ s, c.compare q target = .ok s) ∧
          c.compare r target = .error e) ∧
      (∀ before r after, records = before ++ r :: after → c.isLE r target = .ok true →
        ∀ q ∈ before, ∃ s, c.compare q target = .ok s) ∧
      ((∀ r ∈ records, ∃ s, c.compare r target = .ok s) →
        (c.recoveryPoint records target = .ok none ∧
            ∀ r ∈ records, c.isLE r target = .ok false) ∨
          ∃ before r after, records = before ++ r :: after ∧
            c.recoveryPoint records target = .ok (some (before.length, r)) ∧
            (∀ q ∈ before, c.isLE q target = .ok true ∧ c.isLE q r = .ok true) ∧
            c.isLE r target = .ok true ∧ ∀ q ∈ after, c.isLE q target = .ok false) := by
  refine ⟨exists_recoveryPoint_error_iff, fun e => recoveryPoint_eq_error_iff, ?_, fun hall => ?_⟩
  · rintro before r after rfl hr q hq
    obtain ⟨s, hs, -⟩ := c.isLE_eq_true_iff.1 ((h.isLE_of_before hq).2 hr)
    exact ⟨s, hs⟩
  · obtain ⟨latest, hlatest, hl⟩ := exists_recoveryPoint hall
    cases hl with
    | none hnone => exact .inl ⟨hlatest, hnone⟩
    | @some before after r hr hafter =>
      refine .inr ⟨before, r, after, rfl, hlatest, fun q hq => ?_, hr, hafter⟩
      obtain ⟨hqr, hq⟩ := h.isLE_of_before hq
      exact ⟨hq hr, hqr⟩

/-- A file without a set, a snapshot with one and its end, and what was executed later. -/
def throughSnapshot : List Position :=
  [.start ⟨"bin.000009", 4⟩, afterFirst 3 true, afterFirst 3 false, afterFirst 7 false]

theorem history_throughSnapshot : unfiltered.History throughSnapshot (afterFirst 5 true) where
  parsed := by
    have h₃ := GtidSet.parse_text (g := ⟨TextMap.empty.insert "a" ⟨[⟨1, 3⟩]⟩⟩) (by decide)
    have h₅ := GtidSet.parse_text (g := ⟨TextMap.empty.insert "a" ⟨[⟨1, 5⟩]⟩⟩) (by decide)
    have h₇ := GtidSet.parse_text (g := ⟨TextMap.empty.insert "a" ⟨[⟨1, 7⟩]⟩⟩) (by decide)
    simp only [throughSnapshot, List.forall_mem_cons, List.not_mem_nil, false_implies,
      implies_true, and_true]
    refine ⟨?_, ?_, ?_, ?_, ?_⟩ <;> intro g hg <;> cases hg
    · exact ⟨_, h₅⟩
    · exact ⟨_, h₃⟩
    · exact ⟨_, h₃⟩
    · exact ⟨_, h₇⟩
  server := by
    have hnamed : ∀ p ∈ afterFirst 5 true :: throughSnapshot,
        p.serverId = none ∨ p.serverId = some 7 := by decide
    intro p hp q hq s t hs ht
    have hp := hnamed p hp
    have hq := hnamed q hq
    simp only [hs, ht, reduceCtorEq, Option.some.injEq, false_or] at hp hq
    rw [hp, hq]
  ordered := by decide

/-- For a target that lies between, that is the end of the snapshot. -/
theorem recovers_end_of_beginning_at_snapshot_end :
    unfiltered.recoveryPoint throughSnapshot (afterFirst 5 true) =
        .ok (some (2, afterFirst 3 false)) ∧
      ∃ before after, throughSnapshot = before ++ afterFirst 3 false :: after ∧
        ∀ q ∈ before, unfiltered.isLE q (afterFirst 3 false) = .ok true := by
  have hpoint : unfiltered.recoveryPoint throughSnapshot (afterFirst 5 true) =
      .ok (some (2, afterFirst 3 false)) := by decide
  obtain ⟨-, -, -, hfound⟩ := recovers_end_of_beginning history_throughSnapshot
  have hall : ∀ r ∈ throughSnapshot, ∃ s, unfiltered.compare r (afterFirst 5 true) = .ok s := by
    simp only [throughSnapshot, List.forall_mem_cons, List.not_mem_nil, false_implies,
      implies_true, and_true]
    exact ⟨⟨.before, by decide⟩, ⟨.before, by decide⟩, ⟨.before, by decide⟩, ⟨.after, by decide⟩⟩
  rcases hfound hall with ⟨hnone, -⟩ | ⟨before, r, after, hsplit, hsome, hbefore, -⟩
  · rw [hpoint] at hnone
    cases hnone
  · rw [hpoint, Except.ok.injEq, Option.some.injEq, Prod.mk.injEq] at hsome
    obtain ⟨-, rfl⟩ := hsome
    exact ⟨hpoint, before, after, hsplit, fun q hq => (hbefore q hq).2⟩

end Comparison

end BinlogCursor
