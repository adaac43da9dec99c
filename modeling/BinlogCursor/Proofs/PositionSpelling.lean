/-
Positions as others write them: JSON objects in which a number or a truth value stands for itself or
is spelled out, `null` stands for what is not there, and members that are no fields stand beside.

`SpelledBy` says which objects are meant to hold a position; each is read as that position, since a
field is read off the text of its member (`SpelledBy.ofCheckpoint`). An object without arrays and
objects within is read as the checkpoint of these texts (`ofJson_object`), and every object that
comes from a text is of the kind that is spoken of here (`exists_entries_of_parse?`).
-/
import BinlogCursor.Proofs.GtidOrder
import BinlogCursor.Proofs.PositionJson

namespace BinlogCursor

/-! ## Members -/

namespace Checkpoint

/-- The text of a truth value. -/
def flagText (b : Bool) : String :=
  if b then "true" else "false"

theorem flag_flagText {m : Checkpoint} {key : String} {b : Bool}
    (hm : m.get? key = some (flagText b)) : m.flag key = .ok b := by
  have htrue : String.ofList ((Text.trim "true".toList).map Char.toLower) = "true" := by decide
  have hfalse : String.ofList ((Text.trim "false".toList).map Char.toLower) = "false" := by decide
  have hne : ¬ "false" = "true" := by decide
  cases b with
  | false =>
    have hm : m.get? key = some "false" := hm
    simp only [flag, hm, hfalse, if_neg hne, if_true]
  | true =>
    have hm : m.get? key = some "true" := hm
    simp only [flag, hm, htrue, if_true]

end Checkpoint

namespace Json

/-- The member of a field that is to be a number: this itself, or its text. -/
inductive SpellsNumber (n : Nat) : Option Json → Prop
  | native : SpellsNumber n (some (.natural n))
  | text : SpellsNumber n (some (.string (Checkpoint.numberText n)))

/-- The member of a field that is to be a truth value: this itself, or its text. -/
inductive SpellsFlag (b : Bool) : Option Json → Prop
  | native : SpellsFlag b (some (.bool b))
  | text : SpellsFlag b (some (.string (Checkpoint.flagText b)))

/-- The member of a field that is left out: none at all, or `null`. -/
inductive LeftOut : Option Json → Prop
  | absent : LeftOut none
  | null : LeftOut (some .null)

variable {m : TextMap Json} {key : String}

theorem SpellsNumber.get? {n : Nat} (h : SpellsNumber n (m.get? key)) :
    (m.filterMap plain?).get? key = some (Checkpoint.numberText n) := by
  rw [TextMap.get?_filterMap]
  generalize m.get? key = member at h
  cases h <;> rfl

theorem SpellsFlag.get? {b : Bool} (h : SpellsFlag b (m.get? key)) :
    (m.filterMap plain?).get? key = some (Checkpoint.flagText b) := by
  rw [TextMap.get?_filterMap]
  generalize m.get? key = member at h
  cases h with
  | native => cases b <;> rfl
  | text => rfl

theorem LeftOut.get? (h : LeftOut (m.get? key)) : (m.filterMap plain?).get? key = none := by
  rw [TextMap.get?_filterMap]
  generalize m.get? key = member at h
  cases h <;> rfl

theorem SpellsNumber.number? {α : Type} {n : Nat} {a : α} {fit : Nat → Option α}
    (h : SpellsNumber n (m.get? key)) (hfit : fit n = some a) :
    Checkpoint.number? (m.filterMap plain?) key fit = .ok (some a) :=
  Checkpoint.number?_numberText h.get? hfit

theorem LeftOut.number? {α : Type} (h : LeftOut (m.get? key)) (fit : Nat → Option α) :
    Checkpoint.number? (m.filterMap plain?) key fit = .ok none := by
  simp only [Checkpoint.number?, h.get?]

/-- A counter that is left out is 0. -/
theorem number?_of_counter {n : UInt32}
    (h : SpellsNumber n.toNat (m.get? key) ∨ n = 0 ∧ LeftOut (m.get? key)) :
    ∃ o, Checkpoint.number? (m.filterMap plain?) key Text.word32? = .ok o ∧ o.getD 0 = n := by
  rcases h with h | ⟨rfl, h⟩
  · exact ⟨some n, h.number? (Text.word32?_toNat n), rfl⟩
  · exact ⟨none, h.number? _, rfl⟩

end Json

open Json

namespace Position

variable {p : Position} {m : TextMap Json}

/-- An object spells a position. File and offset are there; each other field is there or, if it is
at its default, left out. Whatever stands beside is neither an array nor an object. -/
structure SpelledBy (p : Position) (m : TextMap Json) : Prop where
  file : m.get? Checkpoint.fileKey = some (.string p.place.file)
  offset : SpellsNumber p.place.offset.toNat (m.get? Checkpoint.offsetKey)
  gtids : (∃ g, p.gtids = some g ∧ m.get? Checkpoint.gtidsKey = some (.string g.text)) ∨
    p.gtids = none ∧ LeftOut (m.get? Checkpoint.gtidsKey)
  row : SpellsNumber p.row.toNat (m.get? Checkpoint.rowKey) ∨
    p.row = 0 ∧ LeftOut (m.get? Checkpoint.rowKey)
  eventsDone : SpellsNumber p.eventsDone.toNat (m.get? Checkpoint.eventsKey) ∨
    p.eventsDone = 0 ∧ LeftOut (m.get? Checkpoint.eventsKey)
  duringSnapshot : SpellsFlag p.duringSnapshot (m.get? Checkpoint.snapshotKey) ∨
    p.duringSnapshot = false ∧ LeftOut (m.get? Checkpoint.snapshotKey)
  /-- The server 0 stands for none. -/
  serverId : SpellsNumber (p.serverId.getD 0).toNat (m.get? Checkpoint.serverKey) ∨
    p.serverId = none ∧ LeftOut (m.get? Checkpoint.serverKey)
  seconds : (∃ s, p.seconds = some s ∧ SpellsNumber s.toNat (m.get? Checkpoint.secondsKey)) ∨
    p.seconds = none ∧ LeftOut (m.get? Checkpoint.secondsKey)
  plain : ∀ e ∈ m.entries, e.2.isComposite = false

/-! ## Objects -/

/-- The texts of the members hold the position that they spell. -/
theorem SpelledBy.ofCheckpoint (h : p.SpelledBy m) (hp : p.Storable) :
    Position.ofCheckpoint (m.filterMap plain?) = .ok p := by
  have hfile : (m.filterMap plain?).get? Checkpoint.fileKey = some p.place.file := by
    rw [TextMap.get?_filterMap, h.file]
    rfl
  have hgtids : GtidSet.parseUnlessBlank ((m.filterMap plain?).get? Checkpoint.gtidsKey) =
      .ok p.gtids := by
    rcases h.gtids with ⟨g, hg, hmember⟩ | ⟨hnone, hmember⟩
    · rw [TextMap.get?_filterMap, hmember, hg]
      exact (hp.gtids g hg).parseUnlessBlank_text
    · rw [hmember.get?, hnone]
      rfl
  have hsnapshot : Checkpoint.flag (m.filterMap plain?) Checkpoint.snapshotKey =
      .ok p.duringSnapshot := by
    rcases h.duringSnapshot with hmember | ⟨hfalse, hmember⟩
    · exact Checkpoint.flag_flagText hmember.get?
    · exact Checkpoint.flag_of_insertIf (hfalse ▸ hmember.get?)
  have hserver : ∃ o, Checkpoint.number? (m.filterMap plain?) Checkpoint.serverKey Text.word64? =
      .ok o ∧ o.filter (· != 0) = p.serverId := by
    rcases h.serverId with hmember | ⟨hnone, hmember⟩
    · refine ⟨_, hmember.number? (Text.word64?_toNat _), ?_⟩
      -- A member that says 0 is there, but says that there is no server.
      cases hid : p.serverId with
      | none => rfl
      | some id =>
        have hne : id ≠ 0 := fun he => hp.serverId (he ▸ hid)
        simp [hne]
    · exact ⟨none, hmember.number? _, hnone.symm⟩
  have hseconds : Checkpoint.number? (m.filterMap plain?) Checkpoint.secondsKey Text.word64? =
      .ok p.seconds := by
    rcases h.seconds with ⟨s, hs, hmember⟩ | ⟨hnone, hmember⟩
    · rw [hs]
      exact hmember.number? (Text.word64?_toNat s)
    · rw [hnone]
      exact hmember.number? _
  exact ofCheckpoint_of_fields hfile (h.offset.number? (Text.word64?_toNat _)) hgtids
    (number?_of_counter h.row) (number?_of_counter h.eventsDone) hsnapshot hserver hseconds

/-- An object is read as the checkpoint of its texts, unless a member is composite. -/
theorem ofJson_object (m : TextMap Json) :
    ofJson (.object m.entries) =
      match m.entries.find? (·.2.isComposite) with
      | some e => .error (.format (.compositeField e.1 e.2.text))
      | none => Position.ofCheckpoint (m.filterMap plain?) := by
  rw [ofJson, checkpointOfJson_object]
  cases m.entries.find? (·.2.isComposite) <;> rfl

theorem ofJson_object_of_plain (h : ∀ e ∈ m.entries, e.2.isComposite = false) :
    ofJson (.object m.entries) = Position.ofCheckpoint (m.filterMap plain?) := by
  have hnone : m.entries.find? (·.2.isComposite) = none :=
    List.find?_eq_none.2 fun e he => by simp [h e he]
  rw [ofJson_object, hnone]

end Position

/-! ## Texts -/

/-- The members of an object stay in order when others are added. -/
theorem Json.sorted_ofMembers? {members : List (Option String × Node)}
    {before after : List (String × Json)} (hbefore : before.Pairwise fun a b => a.1 < b.1)
    (h : ofMembers? before members = some after) : after.Pairwise fun a b => a.1 < b.1 := by
  induction members generalizing before with
  | nil =>
    simp only [ofMembers?, Option.some.injEq] at h
    exact h ▸ hbefore
  | cons member members ih =>
    obtain ⟨key, item⟩ := member
    simp only [ofMembers?, Option.bind_eq_bind, Option.bind_eq_some_iff] at h
    obtain ⟨key, -, value, -, hafter⟩ := h
    exact ih (TextMap.sorted_insertEntry key value hbefore) hafter

/-- The members of an object that is read from a text are in order, with one for each key. -/
theorem Json.exists_entries_of_parse? {text : String} {members : List (String × Json)}
    (h : parse? text = some (.object members)) : ∃ m : TextMap Json, m.entries = members := by
  simp only [parse?, Option.bind_eq_bind, Option.bind_eq_some_iff] at h
  obtain ⟨node, -, hnode⟩ := h
  split at hnode
  · cases node with
    | object found =>
      simp only [ofNode?, Option.map_eq_some_iff, Json.object.injEq] at hnode
      obtain ⟨after, hafter, rfl⟩ := hnode
      exact ⟨⟨after, sorted_ofMembers? .nil hafter⟩, rfl⟩
    | _ => simp [ofNode?] at hnode
  · cases hnode

namespace Position

/-- **All spellings of a position are read alike.** Let a position name no empty set and not the
server 0. Every object that spells it is read as it, whichever fields stand for themselves, are
spelled out, are `null` or are left out, and whatever stands beside them. An object without arrays
and objects within is read as the checkpoint of the texts of what is not `null`; with one of these,
under whatever key, it is refused, and the first one is named. Every text of an object is read as
such an object. -/
theorem spellings_read_alike :
    (∀ (p : Position) (m : TextMap Json),
        (∀ g, p.gtids = some g → g.FromText ∧ g.isEmpty = false) → p.serverId ≠ some 0 →
        p.SpelledBy m → ofJson (.object m.entries) = .ok p) ∧
      (∀ m : TextMap Json, (∀ e ∈ m.entries, e.2.isComposite = false) →
        ofJson (.object m.entries) = Position.ofCheckpoint (m.filterMap plain?)) ∧
      (∀ m : TextMap Json, ∀ e ∈ m.entries, e.2.isComposite = true →
        ∃ first, m.entries.find? (·.2.isComposite) = some first ∧
          ofJson (.object m.entries) =
            .error (.format (.compositeField first.1 first.2.text))) ∧
      ∀ text members, Json.parse? text = some (.object members) →
        ∃ m : TextMap Json, m.entries = members ∧ parseJson text = ofJson (.object m.entries) := by
  refine ⟨fun p m hgtids hserver h => ?_, fun m => ofJson_object_of_plain,
    fun m e he hcomposite => ?_, fun text members hread => ?_⟩
  · have hstorable : p.Storable :=
      ⟨fun g hg => ⟨(hgtids g hg).1.wellFormed, (hgtids g hg).2⟩, hserver⟩
    rw [ofJson_object_of_plain h.plain]
    exact h.ofCheckpoint hstorable
  · have hsome : (m.entries.find? (·.2.isComposite)).isSome = true :=
      List.find?_isSome.2 ⟨e, he, hcomposite⟩
    obtain ⟨first, hfirst⟩ := Option.isSome_iff_exists.1 hsome
    refine ⟨first, hfirst, ?_⟩
    rw [ofJson_object, hfirst]
  · obtain ⟨m, rfl⟩ := Json.exists_entries_of_parse? hread
    refine ⟨m, rfl, ?_⟩
    rw [parseJson, hread]

/-- A position in the middle of an event and of a snapshot, of an unknown server, behind the first
five transactions of another. -/
def midway : Position :=
  ⟨⟨"bin.000008", 380941551⟩, some ⟨TextMap.empty.insert "a" ⟨[⟨1, 5⟩]⟩⟩, 1, 0, true, none, some 0⟩

/-- It is spelled in as many ways as it has fields, and a mark of somebody else stands beside. -/
def midwayMembers : TextMap Json where
  entries :=
    [("filename", .string "bin.000008"), ("gtid_set", .string "a:1-5"), ("mark", .bool false),
      ("position", .natural 380941551), ("row", .string "1"), ("server_id", .natural 0),
      ("snapshot", .bool true), ("ts_sec", .string "0")]
  sorted := by decide

theorem midway_spelledBy : midway.SpelledBy midwayMembers where
  file := rfl
  offset := .native
  gtids := .inl ⟨_, rfl, rfl⟩
  row := .inl .text
  eventsDone := .inr ⟨rfl, .absent⟩
  duringSnapshot := .inl .native
  serverId := .inl .native
  seconds := .inl ⟨0, rfl, .text⟩
  plain := by simp [midwayMembers, isComposite, natural]

/-- It is read as it is meant, and refused once the mark is a list. -/
theorem spellings_read_alike_in_mixture :
    midway.row = 1 ∧ midway.eventsDone = 0 ∧ ofJson (.object midwayMembers.entries) = .ok midway ∧
      Position.ofCheckpoint (midwayMembers.filterMap plain?) = .ok midway ∧
      ∃ cause, ofJson (.object (midwayMembers.insert "mark" (.array [.null])).entries) =
        .error (.format cause) := by
  obtain ⟨hspelled, hplain, hcomposite, -⟩ := spellings_read_alike
  have hg : ∀ g, midway.gtids = some g → g.FromText ∧ g.isEmpty = false := by
    intro g hg
    cases hg
    exact ⟨.parsed (GtidSet.parse_text (by decide)), by decide⟩
  have hread := hspelled midway midwayMembers hg (by decide) midway_spelledBy
  refine ⟨rfl, rfl, hread, (hplain _ midway_spelledBy.plain).symm.trans hread, ?_⟩
  have hmark : ("mark", .array [.null]) ∈ (midwayMembers.insert "mark" (.array [.null])).entries :=
    (TextMap.get?_eq_some_iff _ _ _).1 (by simp [TextMap.get?_insert])
  obtain ⟨first, -, herror⟩ := hcomposite _ _ hmark rfl
  exact ⟨_, herror⟩

end Position

end BinlogCursor
