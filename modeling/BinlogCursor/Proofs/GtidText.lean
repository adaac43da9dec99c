/-
The text of a GTID set is read back as the set (`parse_text`): what is written of a set spells its
servers, each with its intervals (`spelled_chars`), and these put together are the set again
(`addAll_listing`).
-/
import BinlogCursor.Proofs.GtidInclusion

namespace BinlogCursor

/-! ## Intervals -/

namespace Text

theorem not_isBlank_of_isDigit {c : Char} (h : isDigit c = true) : isBlank c = false := by
  obtain ⟨h₁, h₂⟩ := bounds_of_isDigit h
  simp only [isBlank, Bool.or_eq_false_iff, Bool.and_eq_false_iff, beq_eq_false_iff_ne,
    decide_eq_false_iff_not]
  omega

end Text

namespace Interval

theorem numeral_digits (n : UInt64) : Text.Numeral (Text.digits n.toNat) n :=
  ⟨Text.digits_ne_nil _, fun _ => Text.isDigit_of_mem_digits, Text.digitsValue_digits _⟩

/-- What is written of an interval spells it. -/
theorem spelled_chars {i : Interval} (h : i.Valid) : Spelled i.chars i := by
  obtain ⟨first, last⟩ := i
  by_cases heq : first = last
  · subst heq
    rw [chars, if_pos rfl]
    exact .number (numeral_digits first)
  · rw [chars, if_neg heq]
    exact .range (numeral_digits first) (numeral_digits last) (UInt64.le_iff_toNat_le.2 h)

end Interval

namespace Text

theorem mem_join {sep : Char} {pieces : List (List Char)} {c : Char} (h : c ∈ join sep pieces) :
    c = sep ∨ ∃ piece ∈ pieces, c ∈ piece := by
  induction pieces with
  | nil => simp [join] at h
  | cons p ps ih =>
    by_cases hps : ps = []
    · subst hps
      exact .inr ⟨p, by simp, h⟩
    · rw [join_cons_of_ne_nil sep p hps] at h
      rcases List.mem_append.1 h with h | h
      · exact .inr ⟨p, by simp, h⟩
      · rcases List.mem_cons.1 h with rfl | h
        · exact .inl rfl
        · rcases ih h with rfl | ⟨piece, hp, hc⟩
          · exact .inl rfl
          · exact .inr ⟨piece, by simp [hp], hc⟩

end Text

/-! ## Lists of intervals -/

namespace IntervalSet

/-- What is written of a set lists its intervals. -/
theorem listed_chars {s : IntervalSet} (h : ∀ i ∈ s.intervals, i.Valid) (hne : s.intervals ≠ []) :
    Text.Listed ':' Interval.Spelled s.chars s.intervals := by
  refine Text.listed_join ?_ (by simpa using hne)
  rw [List.forall₂_map_left_iff, List.forall₂_same]
  exact fun i hi => Interval.spelled_chars (h i hi)

end IntervalSet

namespace TextMap

variable {β : Type}

theorem insertEntry_last {k : String} {v : β} {l : List (String × β)} (h : ∀ e ∈ l, e.1 < k) :
    insertEntry k v l = l ++ [(k, v)] := by
  induction l with
  | nil => rfl
  | cons a r ih =>
    have ha := h a (by simp)
    have h₁ : ¬ k < a.1 := String.lt_asymm ha
    have h₂ : k ≠ a.1 := fun he => String.lt_irrefl _ (he ▸ ha)
    simp [insertEntry, h₁, h₂, ih fun e he => h e (by simp [he])]

end TextMap

/-! ## Sets -/

namespace GtidSet

theorem entrySpelled_chars {e : String × IntervalSet} (h : Entry e) :
    EntrySpelled (entryChars e) (e.1, e.2.intervals) :=
  .entry h.name.1 (fun hc => (h.name.2 _ hc).2.2 rfl) (fun hc => (h.name.2 _ hc).2.1 rfl)
    (IntervalSet.listed_chars h.canonical.1 h.nonempty)

/-- The servers of a set in their order, each with its intervals. -/
def listing (g : GtidSet) : List (String × List Interval) :=
  g.servers.entries.map fun e => (e.1, e.2.intervals)

/-- What is written of a set spells its entries. -/
theorem spelled_chars {g : GtidSet} (h : g.WellFormed) : Spelled g.chars g.listing := by
  by_cases hn : g.servers.entries = []
  · simp only [chars, listing, hn, List.map_nil]
    exact .blank
  · refine .entries (Text.listed_join ?_ (by simpa using hn))
    rw [listing, List.forall₂_map_left_iff, List.forall₂_map_right_iff, List.forall₂_same]
    exact fun e he => entrySpelled_chars (h e he)

/-- Entries in order are added one behind the other. -/
theorem addAll_of_entries {m n : TextMap IntervalSet} {l : List (String × IntervalSet)}
    (hn : n.entries = m.entries ++ l) (hl : ∀ e ∈ l, Entry e) :
    addAll ⟨m⟩ (l.map fun e => (e.1, e.2.intervals)) = ⟨n⟩ := by
  induction l generalizing m with
  | nil =>
    have he : m = n := by
      cases m
      cases n
      simpa using hn.symm
    rw [he]
    rfl
  | cons e r ih =>
    have hlast : ∀ a ∈ m.entries, a.1 < e.1 := fun a ha =>
      (List.pairwise_append.1 (hn ▸ n.sorted)).2.2 a ha e (by simp)
    have hnew : m.get? e.1 = none := by
      cases hg : m.get? e.1 with
      | none => rfl
      | some s =>
        exact absurd (hlast _ ((TextMap.get?_eq_some_iff _ _ _).1 hg)) (String.lt_irrefl _)
    have hadd : add ⟨m⟩ e.1 (IntervalSet.ofList e.2.intervals) = ⟨m.insert e.1 e.2⟩ := by
      rw [(hl e (by simp)).canonical.ofList_intervals]
      simp only [add, intervalsOf?, hnew]
    rw [List.map_cons, addAll, List.foldl_cons, hadd]
    refine ih ?_ fun a ha => hl a (by simp [ha])
    show n.entries = TextMap.insertEntry e.1 e.2 m.entries ++ r
    rw [hn, TextMap.insertEntry_last hlast, List.append_assoc]
    rfl

theorem addAll_listing {g : GtidSet} (h : g.WellFormed) : empty.addAll g.listing = g :=
  addAll_of_entries (m := .empty) rfl h

theorem not_isBlank_of_mem_chars {g : GtidSet} (h : g.WellFormed) {c : Char} (hc : c ∈ g.chars) :
    Text.isBlank c = false := by
  rcases Text.mem_join hc with rfl | ⟨piece, hp, hc⟩
  · decide
  · obtain ⟨e, he, rfl⟩ := List.mem_map.1 hp
    have hentry := h e he
    rcases List.mem_append.1 hc with hc | hc
    · exact (hentry.name.2 c hc).1
    · rcases List.mem_cons.1 hc with rfl | hc
      · decide
      · rcases IntervalSet.mem_of_listed
          (IntervalSet.listed_chars hentry.canonical.1 hentry.nonempty) hc with hd | rfl | rfl
        · exact Text.not_isBlank_of_isDigit hd
        · decide
        · decide

theorem squeeze_chars {g : GtidSet} (h : g.WellFormed) : Text.squeeze g.text.toList = g.chars := by
  rw [text, String.toList_ofList]
  exact Text.squeeze_eq_self fun c hc => not_isBlank_of_mem_chars h hc

/-- A well-formed set is read back from its text. -/
theorem parse_text {g : GtidSet} (h : g.WellFormed) : parse g.text = .ok g :=
  parse_eq_ok_iff.2 ⟨g.listing, by rw [squeeze_chars h]; exact spelled_chars h, addAll_listing h⟩

theorem chars_eq_nil_iff {g : GtidSet} (h : g.WellFormed) : g.chars = [] ↔ g.isEmpty = true := by
  rw [isEmpty, TextMap.isEmpty, List.isEmpty_iff]
  constructor
  · intro hn
    have hs := spelled_chars h
    rw [hn] at hs
    have hl := hs.unique .blank
    rwa [listing, List.map_eq_nil_iff] at hl
  · intro hn
    simp [chars, hn, Text.join]

end GtidSet

/-! ## Sets in a field -/

namespace Text

theorem trimStart_eq_nil {cs : List Char} (h : squeeze cs = []) : trimStart cs = [] := by
  induction cs with
  | nil => rfl
  | cons c r ih =>
    cases hb : isBlank c with
    | false => simp [squeeze, hb] at h
    | true =>
      have hr : squeeze r = [] := by simpa [squeeze, hb] using h
      simpa [trimStart, hb] using ih hr

theorem trim_eq_nil {cs : List Char} (h : squeeze cs = []) : trim cs = [] := by
  rw [trim, trimStart_eq_nil h]
  rfl

end Text

namespace GtidSet

/-- The form of the sets that stand in a field which is not blank. -/
structure Present (g : GtidSet) : Prop where
  wellFormed : g.WellFormed
  nonempty : g.isEmpty = false

/-- What was read from a text that may be missing is present. -/
theorem Present.of_parseUnlessBlank {text : Option String} {g : GtidSet}
    (h : parseUnlessBlank text = .ok (some g)) : g.Present := by
  unfold parseUnlessBlank at h
  split at h
  · cases h
  · next s =>
    split at h
    · cases h
    · next hblank =>
      obtain ⟨g', hg', heq⟩ := Outcome.map_ok_iff.1 h
      cases heq
      refine ⟨.of_parse hg', ?_⟩
      obtain ⟨es, hes, rfl⟩ := parse_eq_ok_iff.1 hg'
      have hsq : Text.squeeze s.toList ≠ [] := fun hn => hblank (by rw [Text.trim_eq_nil hn]; rfl)
      generalize Text.squeeze s.toList = cs at hes hsq
      cases hes with
      | blank => exact absurd rfl hsq
      | entries hl => exact isEmpty_addAll hl.ne_nil _

/-- A set is read back from its text in a field, and the empty set is read as none. -/
theorem parseUnlessBlank_text {g : GtidSet} (h : g.WellFormed) :
    parseUnlessBlank (some g.text) = .ok (if g.isEmpty then none else some g) := by
  have htrim : Text.trim g.text.toList = g.chars := by
    rw [text, String.toList_ofList]
    exact Text.trim_eq_self fun c hc => not_isBlank_of_mem_chars h hc
  simp only [parseUnlessBlank, htrim, List.isEmpty_iff, chars_eq_nil_iff h, parse_text h]
  split <;> rfl

/-- A set that is present is read back from its text. -/
theorem Present.parseUnlessBlank_text {g : GtidSet} (h : g.Present) :
    parseUnlessBlank (some g.text) = .ok (some g) := by
  rw [GtidSet.parseUnlessBlank_text h.wellFormed, h.nonempty]
  rfl

end GtidSet

end BinlogCursor
