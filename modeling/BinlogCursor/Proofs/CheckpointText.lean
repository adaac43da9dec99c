/-
Positions that can be stored, and what is read back from where they are stored.

`ofCheckpoint_toCheckpoint_of_wellFormed`: every position is read back in its normal form, in which
what stands for none is none. A storable position is in that form (`ofCheckpoint_toCheckpoint`), and
every position that was read is storable (`storable_of_ofCheckpoint`).
-/
import BinlogCursor.Position.Checkpoint
import BinlogCursor.Proofs.GtidText

namespace BinlogCursor

/-! ## Fields -/

namespace TextMap

variable {β : Type}

theorem insertIf_eq (m : TextMap β) (given : Bool) (k : String) (v : β) :
    m.insertIf given k v = m.insertSome k (if given then some v else none) := by
  cases given <;> rfl

theorem get?_foldl_insertSome_of_not_mem {l : List (String × Option β)} {m : TextMap β}
    {k : String} (h : k ∉ l.map Prod.fst) :
    (l.foldl (fun m f => m.insertSome f.1 f.2) m).get? k = m.get? k := by
  induction l generalizing m with
  | nil => rfl
  | cons a l ih =>
    simp only [List.map_cons, List.mem_cons, not_or] at h
    rw [List.foldl_cons, ih h.2, get?_insertSome, if_neg h.1]

/-- Fields that are set one after the other keep their values when no two have one key. -/
theorem get?_foldl_insertSome {l : List (String × Option β)} (hl : (l.map Prod.fst).Nodup)
    {k : String} {v : Option β} (h : (k, v) ∈ l) :
    (l.foldl (fun m f => m.insertSome f.1 f.2) empty).get? k = v := by
  suffices ∀ m : TextMap β, m.get? k = none →
      (l.foldl (fun m f => m.insertSome f.1 f.2) m).get? k = v from this empty rfl
  induction l with
  | nil => exact absurd h List.not_mem_nil
  | cons a l ih =>
    intro m hm
    rw [List.map_cons, List.nodup_cons] at hl
    rw [List.foldl_cons]
    rcases List.mem_cons.1 h with rfl | h
    · rw [get?_foldl_insertSome_of_not_mem hl.1, get?_insertSome, if_pos rfl, hm, Option.or_none]
    · have hk : k ≠ a.1 := fun he => hl.1 (he ▸ List.mem_map.2 ⟨(k, v), h, rfl⟩)
      exact ih hl.2 h _ (by rw [get?_insertSome, if_neg hk, hm])

end TextMap

namespace Checkpoint

/-- The text of a number is read back from a field, if the number fits. -/
theorem number?_numberText {α : Type} {m : Checkpoint} {key : String} {n : Nat} {a : α}
    {fit : Nat → Option α} (hm : m.get? key = some (numberText n)) (hfit : fit n = some a) :
    m.number? key fit = .ok (some a) := by
  have htrim : Text.trim (Text.digits n) = Text.digits n := by
    refine Text.trim_eq_self fun c hc => ?_
    exact Text.not_isBlank_of_isDigit (Text.isDigit_of_mem_digits hc)
  simp only [number?, hm, numberText, String.toList_ofList, htrim, Text.unsigned?_digits,
    Option.bind_some, hfit]

/-- A number that is left out when it is 0 is read as it was. -/
theorem number?_of_insertIf {m : Checkpoint} {key : String} {n : UInt32}
    (hm : m.get? key = if n != 0 then some (numberText n.toNat) else none) :
    ∃ o, m.number? key Text.word32? = .ok o ∧ o.getD 0 = n := by
  by_cases hn : n = 0
  · subst hn
    have hm : m.get? key = none := by simpa using hm
    exact ⟨none, by simp only [number?, hm], rfl⟩
  · have hm : m.get? key = some (numberText n.toNat) := by simpa [hn] using hm
    exact ⟨some n, number?_numberText hm (Text.word32?_toNat n), rfl⟩

/-- A number that may be missing is read as it was. -/
theorem number?_of_insertSome {m : Checkpoint} {key : String} {o : Option UInt64}
    (hm : m.get? key = o.map fun n => numberText n.toNat) :
    m.number? key Text.word64? = .ok o := by
  cases o with
  | none =>
    have hm : m.get? key = none := hm
    simp only [number?, hm]
  | some n => exact number?_numberText hm (Text.word64?_toNat n)

theorem flag_of_insertIf {m : Checkpoint} {key : String} {b : Bool}
    (hm : m.get? key = if b then some "true" else none) : m.flag key = .ok b := by
  cases b with
  | false =>
    have hm : m.get? key = none := hm
    simp only [flag, hm]
  | true =>
    have hm : m.get? key = some "true" := hm
    have hlower : String.ofList ((Text.trim "true".toList).map Char.toLower) = "true" := by decide
    simp only [flag, hm, hlower, if_true]

end Checkpoint

namespace Position

/-- A position that can be stored: its set, if it has one, is one that was read and not a blank
text, and its server is not the one that stands for none. -/
structure Storable (p : Position) : Prop where
  gtids : ∀ g, p.gtids = some g → g.Present
  serverId : p.serverId ≠ some 0

/-- The position without what stands for none: a set that holds nothing, and the server 0. -/
def normal (p : Position) : Position :=
  { p with
    gtids := p.gtids.filter (!·.isEmpty)
    serverId := p.serverId.filter (· != 0) }

theorem Storable.normal_eq {p : Position} (h : p.Storable) : p.normal = p := by
  have hgtids : p.gtids.filter (!·.isEmpty) = p.gtids := by
    cases hg : p.gtids with
    | none => rfl
    | some g => simp [(h.gtids g hg).nonempty]
  have hserver : p.serverId.filter (· != 0) = p.serverId := by
    cases hid : p.serverId with
    | none => rfl
    | some id =>
      have hne : id ≠ 0 := fun he => h.serverId (he ▸ hid)
      simp [hne]
  rw [normal, hgtids, hserver]

/-! ## What is stored -/

/-- The fields of a position, with the texts of those that are not left out. -/
def fields (p : Position) : List (String × Option String) :=
  [(Checkpoint.fileKey, some p.place.file),
    (Checkpoint.offsetKey, some (Checkpoint.numberText p.place.offset.toNat)),
    (Checkpoint.rowKey, if p.row != 0 then some (Checkpoint.numberText p.row.toNat) else none),
    (Checkpoint.eventsKey,
      if p.eventsDone != 0 then some (Checkpoint.numberText p.eventsDone.toNat) else none),
    (Checkpoint.gtidsKey, p.gtids.map GtidSet.text),
    (Checkpoint.snapshotKey, if p.duringSnapshot then some "true" else none),
    (Checkpoint.serverKey, p.serverId.map fun id => Checkpoint.numberText id.toNat),
    (Checkpoint.secondsKey, p.seconds.map fun s => Checkpoint.numberText s.toNat)]

theorem toCheckpoint_eq_foldl (p : Position) :
    p.toCheckpoint = p.fields.foldl (fun m f => m.insertSome f.1 f.2) TextMap.empty := by
  simp only [toCheckpoint, fields, List.foldl_cons, List.foldl_nil, TextMap.insertIf_eq]
  rfl

/-- Each field holds its text, and one that is left out is not there. -/
theorem get?_toCheckpoint {p : Position} {key : String} {text : Option String}
    (h : (key, text) ∈ p.fields) : p.toCheckpoint.get? key = text := by
  rw [toCheckpoint_eq_foldl]
  refine TextMap.get?_foldl_insertSome ?_ h
  simp only [fields, List.map_cons, List.map_nil]
  decide

/-- A position is read when each of its fields is. -/
theorem ofCheckpoint_of_fields {m : Checkpoint} {p : Position}
    (hfile : m.get? Checkpoint.fileKey = some p.place.file)
    (hoffset : m.number? Checkpoint.offsetKey Text.word64? = .ok (some p.place.offset))
    (hgtids : GtidSet.parseUnlessBlank (m.get? Checkpoint.gtidsKey) = .ok p.gtids)
    (hrow : ∃ o, m.number? Checkpoint.rowKey Text.word32? = .ok o ∧ o.getD 0 = p.row)
    (hevents : ∃ o, m.number? Checkpoint.eventsKey Text.word32? = .ok o ∧ o.getD 0 = p.eventsDone)
    (hsnapshot : m.flag Checkpoint.snapshotKey = .ok p.duringSnapshot)
    (hserver : ∃ o, m.number? Checkpoint.serverKey Text.word64? = .ok o ∧
      o.filter (· != 0) = p.serverId)
    (hseconds : m.number? Checkpoint.secondsKey Text.word64? = .ok p.seconds) :
    ofCheckpoint m = .ok p := by
  obtain ⟨row, hrow, hrow'⟩ := hrow
  obtain ⟨events, hevents, hevents'⟩ := hevents
  obtain ⟨server, hserver, hserver'⟩ := hserver
  simp only [ofCheckpoint, hfile, hoffset, hgtids, hrow, hevents, hsnapshot, hserver, hseconds,
    bind, Except.bind, pure, Except.pure, hrow', hevents', hserver']

/-- **Storing and reading.** A position is read back in its normal form. -/
theorem ofCheckpoint_toCheckpoint_of_wellFormed {p : Position}
    (h : ∀ g, p.gtids = some g → g.WellFormed) : ofCheckpoint p.toCheckpoint = .ok p.normal := by
  have hfile : p.toCheckpoint.get? Checkpoint.fileKey = some p.place.file :=
    get?_toCheckpoint (by simp [fields])
  have hoffset : p.toCheckpoint.number? Checkpoint.offsetKey Text.word64? =
      .ok (some p.place.offset) :=
    Checkpoint.number?_numberText (get?_toCheckpoint (by simp [fields])) (Text.word64?_toNat _)
  have hgtids : GtidSet.parseUnlessBlank (p.toCheckpoint.get? Checkpoint.gtidsKey) =
      .ok (p.gtids.filter (!·.isEmpty)) := by
    have htext : p.toCheckpoint.get? Checkpoint.gtidsKey = p.gtids.map GtidSet.text :=
      get?_toCheckpoint (by simp [fields])
    rw [htext]
    cases hg : p.gtids with
    | none => rfl
    | some g =>
      rw [Option.map_some, GtidSet.parseUnlessBlank_text (h g hg), Option.filter_some]
      cases g.isEmpty <;> rfl
  have hrow : ∃ o, p.toCheckpoint.number? Checkpoint.rowKey Text.word32? = .ok o ∧
      o.getD 0 = p.row :=
    Checkpoint.number?_of_insertIf (get?_toCheckpoint (by simp [fields]))
  have hevents : ∃ o, p.toCheckpoint.number? Checkpoint.eventsKey Text.word32? = .ok o ∧
      o.getD 0 = p.eventsDone :=
    Checkpoint.number?_of_insertIf (get?_toCheckpoint (by simp [fields]))
  have hsnapshot : p.toCheckpoint.flag Checkpoint.snapshotKey = .ok p.duringSnapshot :=
    Checkpoint.flag_of_insertIf (get?_toCheckpoint (by simp [fields]))
  have hserver : p.toCheckpoint.number? Checkpoint.serverKey Text.word64? = .ok p.serverId :=
    Checkpoint.number?_of_insertSome (get?_toCheckpoint (by simp [fields]))
  have hseconds : p.toCheckpoint.number? Checkpoint.secondsKey Text.word64? = .ok p.seconds :=
    Checkpoint.number?_of_insertSome (get?_toCheckpoint (by simp [fields]))
  exact ofCheckpoint_of_fields hfile hoffset hgtids hrow hevents hsnapshot ⟨_, hserver, rfl⟩
    hseconds

/-- A storable position is read back as it was stored. -/
theorem ofCheckpoint_toCheckpoint {p : Position} (h : p.Storable) :
    ofCheckpoint p.toCheckpoint = .ok p := by
  rw [ofCheckpoint_toCheckpoint_of_wellFormed fun g hg => (h.gtids g hg).wellFormed, h.normal_eq]

/-- Every position that was read can be stored. -/
theorem storable_of_ofCheckpoint {m : Checkpoint} {p : Position} (h : ofCheckpoint m = .ok p) :
    p.Storable := by
  simp only [ofCheckpoint] at h
  split at h
  · obtain ⟨file, -, h⟩ := Outcome.bind_ok_iff.1 h
    obtain ⟨offset?, -, h⟩ := Outcome.bind_ok_iff.1 h
    split at h
    · simp only [Outcome.bind_ok_iff, Outcome.pure_ok_iff] at h
      obtain ⟨offset, -, gtids, hgtids, row, -, events, -, snapshot, -, server, -, seconds, -,
        rfl⟩ := h
      refine ⟨fun g hg => ?_, fun hid => ?_⟩
      · cases hg
        exact .of_parseUnlessBlank hgtids
      · simp at hid
    · cases h
  · cases h

end Position

end BinlogCursor
