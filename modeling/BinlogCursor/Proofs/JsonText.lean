/-
Objects of texts in JSON: what is written of one is read back (`parse?_text_ofTexts`).

Strings are read as they are written (`readString_chars`), and so are the members of an object, with
fuel for each of them (`readMembers_texts`).
-/
import BinlogCursor.Json.Value
import BinlogCursor.Proofs.GtidText

namespace BinlogCursor

namespace Json

/-! ## Strings -/

namespace Node

theorem hexUnit?_hexChar : ∀ n < 0x20,
    hexUnit? '0' '0' (hexChar (n / 16)) (hexChar (n % 16)) = some n := by
  decide

theorem readUnits_escaped {e c : Char} (h : escaped? e = some c) (cs : List Char) :
    readUnits ('\\' :: e :: cs) = (readUnits cs).map fun r => (c.toNat :: r.1, r.2) := by
  have hu : e ≠ 'u' := by
    rintro rfl
    cases h
  rw [readUnits, h]
  · cases readUnits cs <;> rfl
  · intro _ _ _ _ _ he
    exact absurd he hu

theorem readUnits_control {n : Nat} (h : n < 0x20) (cs : List Char) :
    readUnits ('\\' :: 'u' :: '0' :: '0' :: hexChar (n / 16) :: hexChar (n % 16) :: cs) =
      (readUnits cs).map fun r => (n :: r.1, r.2) := by
  rw [readUnits, hexUnit?_hexChar n h]
  cases readUnits cs <;> rfl

theorem readUnits_plain {c : Char} (hquote : c ≠ '"') (hslash : c ≠ '\\') (hc : 0x20 ≤ c.toNat)
    (cs : List Char) :
    readUnits (c :: cs) = (readUnits cs).map fun r => (c.toNat :: r.1, r.2) := by
  rw [readUnits]
  · have hcond : (c.toNat < 0x20 || c == '\\') = false := by
      simp [hslash]
      omega
    rw [if_neg (by simp [hcond])]
    cases readUnits cs <;> rfl
  · exact hquote
  · intro _ _ _ _ _ he
    exact absurd he hslash
  · intro _ _ he
    exact absurd he hslash

/-- A character is read as it is written. -/
theorem readUnits_charChars (c : Char) (cs : List Char) :
    readUnits (charChars c ++ cs) = (readUnits cs).map fun r => (c.toNat :: r.1, r.2) := by
  unfold charChars
  split
  · exact readUnits_escaped (by rfl) cs
  · exact readUnits_escaped (by rfl) cs
  · exact readUnits_escaped (by rfl) cs
  · exact readUnits_escaped (by rfl) cs
  · exact readUnits_escaped (by rfl) cs
  · exact readUnits_escaped (by rfl) cs
  · exact readUnits_escaped (by rfl) cs
  · next hquote hslash _ _ _ _ _ =>
    split
    · next h => exact readUnits_control h cs
    · next h => exact readUnits_plain hquote hslash (by omega) cs

theorem readUnits_flatMap_charChars (s cs : List Char) :
    readUnits (s.flatMap charChars ++ '"' :: cs) = some (s.map Char.toNat, cs) := by
  induction s with
  | nil => rfl
  | cons c s ih =>
    rw [List.flatMap_cons, List.append_assoc, readUnits_charChars, ih]
    rfl

/-- No character is one half of a surrogate pair. -/
theorem not_surrogate (c : Char) : isLeading c.toNat = false ∧ isTrailing c.toNat = false := by
  have h : c.toNat < 0xD800 ∨ 0xDFFF < c.toNat ∧ c.toNat < 0x110000 := c.valid
  simp only [isLeading, isTrailing, Bool.and_eq_false_iff, decide_eq_false_iff_not]
  omega

theorem ofUnits?_map_toNat (s : List Char) : ofUnits? (s.map Char.toNat) = some s := by
  induction s with
  | nil => rfl
  | cons c s ih =>
    obtain ⟨hleading, htrailing⟩ := not_surrogate c
    cases s with
    | nil => simp [ofUnits?, hleading, htrailing]
    | cons d s =>
      rw [List.map_cons, List.map_cons, ofUnits?, hleading, htrailing]
      rw [List.map_cons] at ih
      simp [ih]

theorem readString_chars (s : String) (cs : List Char) :
    readString (s.toList.flatMap charChars ++ '"' :: cs) = some (some s, cs) := by
  simp only [readString, readUnits_flatMap_charChars]
  simp [ofUnits?_map_toNat]

theorem readValue_string (fuel : Nat) (s : String) (cs : List Char) :
    readValue (fuel + 1) (Json.stringChars s ++ cs) = some (.string (some s), cs) := by
  have hskip : skipSpace (Json.stringChars s ++ cs) =
      '"' :: (s.toList.flatMap charChars ++ '"' :: cs) := by
    simp [Json.stringChars, skipSpace, isSpace]
  rw [readValue, hskip]
  simp [readString_chars]

/-! ## Members -/

/-- A member whose value is a text. -/
def ofText (e : String × String) : Option String × Node :=
  (some e.1, .string (some e.2))

theorem skipSpace_cons {c : Char} (h : isSpace c = false) (cs : List Char) :
    skipSpace (c :: cs) = c :: cs := by
  rw [skipSpace, List.dropWhile_cons, h]
  rfl

theorem expect?_cons {c : Char} (h : isSpace c = false) (cs : List Char) :
    expect? c (c :: cs) = some cs := by
  rw [expect?, skipSpace_cons h]
  exact if_pos rfl

theorem memberChars_text_append (e : String × String) (cs : List Char) :
    Json.memberChars (e.1, .string e.2) ++ cs =
      '"' :: (e.1.toList.flatMap charChars ++ '"' :: ':' :: (Json.stringChars e.2 ++ cs)) := by
  simp [Json.memberChars, Json.stringChars, Json.chars]

/-- The last member of an object. -/
theorem readMembers_last (fuel : Nat) (e : String × String) (cs : List Char) :
    readMembers (fuel + 2) (Json.memberChars (e.1, .string e.2) ++ '\x7d' :: cs) =
      some ([ofText e], cs) := by
  rw [memberChars_text_append, readMembers, expect?_cons (by decide)]
  simp only [Option.bind_eq_bind, Option.bind_some, readString_chars,
    expect?_cons (by decide : isSpace ':' = false), readValue_string,
    skipSpace_cons (by decide : isSpace '\x7d' = false)]
  rfl

/-- A member behind which there are others. -/
theorem readMembers_more (fuel : Nat) (e : String × String) (cs : List Char) :
    readMembers (fuel + 2) (Json.memberChars (e.1, .string e.2) ++ ',' :: cs) =
      (readMembers (fuel + 1) cs).map fun r => (ofText e :: r.1, r.2) := by
  rw [memberChars_text_append, readMembers, expect?_cons (by decide)]
  simp only [Option.bind_eq_bind, Option.bind_some, readString_chars,
    expect?_cons (by decide : isSpace ':' = false), readValue_string,
    skipSpace_cons (by decide : isSpace ',' = false)]
  cases readMembers (fuel + 1) cs <;> rfl

theorem readMembers_texts (e : String × String) (l : List (String × String)) {fuel : Nat}
    (hfuel : l.length + 2 ≤ fuel) (cs : List Char) :
    readMembers fuel (Json.memberChars (e.1, .string e.2) ++
        (Json.membersChars (l.map fun e => (e.1, .string e.2)) ++ cs)) =
      some ((e :: l).map ofText, cs) := by
  obtain ⟨fuel, rfl⟩ : ∃ n, fuel = n + 2 := ⟨fuel - 2, by omega⟩
  induction l generalizing e fuel with
  | nil => exact readMembers_last fuel e cs
  | cons f l ih =>
    obtain ⟨fuel, rfl⟩ : ∃ n, fuel = n + 1 := ⟨fuel - 1, by simp at hfuel; omega⟩
    simp only [List.map_cons, Json.membersChars, List.cons_append, List.append_assoc]
    rw [readMembers_more, ih f fuel (by simpa using hfuel)]
    rfl

end Node

/-! ## Objects -/

/-- The object of the entries of a map. -/
def ofTexts (m : TextMap String) : Json :=
  .object (m.entries.map fun e => (e.1, .string e.2))

theorem length_lt_membersChars (l : List (String × Json)) : l.length < (membersChars l).length := by
  induction l with
  | nil => simp [membersChars]
  | cons e l ih =>
    simp only [membersChars, List.cons_append, List.length_cons, List.length_append]
    omega

theorem readValue_texts (l : List (String × String)) {fuel : Nat} (hfuel : l.length + 2 ≤ fuel) :
    Node.readValue (fuel + 1) (chars (.object (l.map fun e => (e.1, .string e.2)))) =
      some (.object (l.map Node.ofText), []) := by
  cases l with
  | nil => rfl
  | cons e l =>
    have hlength : l.length + 2 ≤ fuel := by
      rw [List.length_cons] at hfuel
      omega
    have hmembers := Node.readMembers_texts e l hlength []
    rw [Node.memberChars_text_append, List.append_nil] at hmembers
    rw [List.map_cons, chars, List.cons_append, Node.memberChars_text_append, Node.readValue,
      Node.skipSpace_cons (by decide)]
    simp only [Node.skipSpace_cons (by decide : Node.isSpace '"' = false)]
    show (Node.readMembers fuel _).bind _ = _
    rw [hmembers]
    rfl

theorem read?_text_ofTexts (m : TextMap String) :
    Node.read? (ofTexts m).text = some (.object (m.entries.map Node.ofText)) := by
  have hlength : m.entries.length + 2 ≤ 2 * (ofTexts m).chars.length := by
    rcases m with ⟨_ | ⟨e, l⟩, _⟩
    · simp [ofTexts, chars]
    · have hmembers := length_lt_membersChars (l.map fun e => (e.1, .string e.2))
      simp [ofTexts, chars] at hmembers ⊢
      omega
  simp only [Node.read?, text, String.toList_ofList, ofTexts] at hlength ⊢
  rw [readValue_texts m.entries hlength]
  rfl

theorem membersDepth_texts (l : List (String × String)) :
    Node.membersDepth (l.map Node.ofText) = 0 := by
  induction l with
  | nil => rfl
  | cons e l ih => simp [Node.ofText, Node.membersDepth, Node.depth, ih]

theorem ofMembers?_texts {before l : List (String × String)}
    (h : (before ++ l).Pairwise fun a b => a.1 < b.1) :
    ofMembers? (before.map fun e => (e.1, .string e.2)) (l.map Node.ofText) =
      some ((before ++ l).map fun e => (e.1, .string e.2)) := by
  induction l generalizing before with
  | nil => simp [ofMembers?]
  | cons e l ih =>
    have hlast : ∀ a ∈ before.map fun e => (e.1, Json.string e.2), a.1 < e.1 := by
      intro a ha
      obtain ⟨b, hb, rfl⟩ := List.mem_map.1 ha
      exact (List.pairwise_append.1 h).2.2 b hb e (by simp)
    have hrest := @ih (before ++ [e]) (by simpa using h)
    rw [List.map_append, List.map_singleton, List.append_assoc] at hrest
    simp [Node.ofText, ofMembers?, ofNode?, TextMap.insertEntry_last hlast, hrest]

/-- What is written of an object of texts is read back. -/
theorem parse?_text_ofTexts (m : TextMap String) : parse? (ofTexts m).text = some (ofTexts m) := by
  have hmembers : ofMembers? [] (m.entries.map Node.ofText) =
      some (m.entries.map fun e => (e.1, .string e.2)) :=
    @ofMembers?_texts [] m.entries m.sorted
  have hdepth : (Node.object (m.entries.map Node.ofText)).depth ≤ Node.depthLimit := by
    rw [Node.depth, membersDepth_texts]
    decide
  simp only [parse?, read?_text_ofTexts, Option.bind_eq_bind, Option.bind_some, if_pos hdepth]
  rw [ofNode?, hmembers]
  rfl

end Json

end BinlogCursor
