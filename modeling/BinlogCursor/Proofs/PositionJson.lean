/-
Positions in JSON: an object is read as the map of the texts of its members, unless one of these is
composite (`checkpointOfJson_object`). So what is written is read as from the checkpoint
(`ofJson_toJson`), and from the text as well (`parseJson_text_toJson`).
-/
import BinlogCursor.Position.Json
import BinlogCursor.Proofs.CheckpointText
import BinlogCursor.Proofs.JsonText

namespace BinlogCursor

/-! ## Maps -/

namespace TextMap

variable {β γ : Type}

/-- Entries in order are inserted one behind the other. -/
theorem foldl_insert {m n : TextMap β} {l : List (String × β)}
    (hn : n.entries = m.entries ++ l) : l.foldl (fun m e => m.insert e.1 e.2) m = n := by
  induction l generalizing m with
  | nil =>
    cases m
    cases n
    simpa using hn.symm
  | cons e l ih =>
    have hlast : ∀ a ∈ m.entries, a.1 < e.1 := fun a ha =>
      (List.pairwise_append.1 (hn ▸ n.sorted)).2.2 a ha e (by simp)
    refine ih ?_
    show _ = insertEntry e.1 e.2 m.entries ++ l
    rw [hn, insertEntry_last hlast, List.append_assoc]
    rfl

/-- The entries whose values stand for others, with these in their place. -/
def filterMap (f : β → Option γ) (m : TextMap β) : TextMap γ where
  entries := m.entries.filterMap fun e => (f e.2).map (e.1, ·)
  sorted := by
    refine m.sorted.filterMap _ fun a b hlt a' ha b' hb => ?_
    obtain ⟨v, -, rfl⟩ := Option.map_eq_some_iff.1 ha
    obtain ⟨w, -, rfl⟩ := Option.map_eq_some_iff.1 hb
    exact hlt

theorem get?_filterMap (f : β → Option γ) (m : TextMap β) (k : String) :
    (m.filterMap f).get? k = (m.get? k).bind f := by
  refine Option.ext fun v => ?_
  rw [get?_eq_some_iff, Option.bind_eq_some_iff]
  simp only [filterMap, List.mem_filterMap, Option.map_eq_some_iff, Prod.mk.injEq,
    get?_eq_some_iff]
  constructor
  · rintro ⟨e, he, v, hv, rfl, rfl⟩
    exact ⟨e.2, he, hv⟩
  · rintro ⟨w, hw, hv⟩
    exact ⟨(k, w), hw, v, hv, rfl, rfl⟩

theorem foldl_insertSome (f : β → Option γ) (m : TextMap γ) (l : List (String × β)) :
    l.foldl (fun m e => m.insertSome e.1 (f e.2)) m =
      (l.filterMap fun e => (f e.2).map (e.1, ·)).foldl (fun m e => m.insert e.1 e.2) m := by
  induction l generalizing m with
  | nil => rfl
  | cons e l ih =>
    rw [List.foldl_cons, ih, List.filterMap_cons]
    cases f e.2 <;> rfl

end TextMap

/-! ## Members -/

namespace Json

/-- An array or an object. -/
def isComposite : Json → Bool
  | .array _ | .object _ => true
  | _ => false

/-- The text that a value stands for in a field: a string itself, a number or a truth value as it is
written. Nothing stands for `null`, nor for what is composite. -/
def plain? : Json → Option String
  | .string s => some s
  | .number n => some (Json.number n).text
  | .bool b => some (Json.bool b).text
  | .null | .array _ | .object _ => none

end Json

namespace Position

theorem addMember_of_composite (m : Checkpoint) {e : String × Json}
    (he : e.2.isComposite = true) :
    addMember m e = .error (.format (.compositeField e.1 e.2.text)) := by
  obtain ⟨key, value⟩ := e
  cases value with
  | array items => rfl
  | object members => rfl
  | _ => cases he

theorem addMember_of_plain (m : Checkpoint) {e : String × Json} (he : e.2.isComposite = false) :
    addMember m e = .ok (m.insertSome e.1 e.2.plain?) := by
  obtain ⟨key, value⟩ := e
  cases value with
  | null => rfl
  | bool b => cases b <;> rfl
  | number n => rfl
  | string s => rfl
  | _ => cases he

/-- Members are added one by one, up to the first that is composite. -/
theorem foldlM_addMember (m : Checkpoint) (l : List (String × Json)) :
    l.foldlM addMember m =
      match l.find? (·.2.isComposite) with
      | some e => .error (.format (.compositeField e.1 e.2.text))
      | none => .ok (l.foldl (fun m e => m.insertSome e.1 e.2.plain?) m) := by
  induction l generalizing m with
  | nil => rfl
  | cons e l ih =>
    rw [List.foldlM_cons, List.find?_cons]
    cases he : e.2.isComposite with
    | true =>
      rw [addMember_of_composite m he]
      rfl
    | false =>
      rw [addMember_of_plain m he]
      exact ih _

/-- An object is read as the map of the texts of its members. -/
theorem checkpointOfJson_object (m : TextMap Json) :
    checkpointOfJson (.object m.entries) =
      match m.entries.find? (·.2.isComposite) with
      | some e => .error (.format (.compositeField e.1 e.2.text))
      | none => .ok (m.filterMap Json.plain?) := by
  rw [checkpointOfJson, foldlM_addMember, TextMap.foldl_insertSome]
  split
  · rfl
  · exact congrArg Except.ok (TextMap.foldl_insert rfl)

theorem checkpointOfJson_ofTexts (m : Checkpoint) :
    checkpointOfJson (Json.ofTexts m) = .ok m := by
  have hplain : (m.entries.map fun e => (e.1, Json.string e.2)).find? (·.2.isComposite) = none := by
    simp [List.find?_eq_none, Json.isComposite]
  rw [Json.ofTexts, checkpointOfJson, foldlM_addMember, hplain, List.foldl_map]
  exact congrArg Except.ok (TextMap.foldl_insert rfl)

/-- A position is read from its JSON as it is from its checkpoint. -/
theorem ofJson_toJson (p : Position) : ofJson p.toJson = ofCheckpoint p.toCheckpoint := by
  have hm : checkpointOfJson p.toJson = .ok p.toCheckpoint := checkpointOfJson_ofTexts _
  rw [ofJson, hm]
  rfl

theorem parseJson_text_toJson (p : Position) :
    parseJson p.toJson.text = ofCheckpoint p.toCheckpoint := by
  have hread : Json.parse? p.toJson.text = some p.toJson := Json.parse?_text_ofTexts p.toCheckpoint
  rw [parseJson, hread]
  exact ofJson_toJson p

theorem parseJson_text {p : Position} (h : p.Storable) : parseJson p.toJson.text = .ok p := by
  rw [parseJson_text_toJson, ofCheckpoint_toCheckpoint h]

end Position

end BinlogCursor
