/-
Finite maps keyed by text. The entries are kept in strictly increasing order of
their keys (by code point), so a map has one form only and its entries come out
in the order in which they are written.
Main statements: looking up after an insertion (`get?_insert`) and after a
selection (`get?_filter`), and maps that answer every lookup alike are equal
(`ext_get?`).
-/

namespace BinlogCursor

/-- A finite map from text, its keys in strictly increasing order. -/
structure TextMap (β : Type) where
  entries : List (String × β)
  sorted : entries.Pairwise fun a b => a.1 < b.1
deriving DecidableEq

namespace TextMap

variable {β : Type}

/-- Puts an entry at its place, over one that has its key. -/
def insertEntry (k : String) (v : β) : List (String × β) → List (String × β)
  | [] => [(k, v)]
  | e :: rest =>
    if k < e.1 then (k, v) :: e :: rest
    else if k = e.1 then (k, v) :: rest
    else e :: insertEntry k v rest

def lookup (k : String) : List (String × β) → Option β
  | [] => none
  | e :: rest => if k = e.1 then some e.2 else lookup k rest

theorem mem_insertEntry {k : String} {v : β} {l : List (String × β)} {e : String × β}
    (h : e ∈ insertEntry k v l) : e = (k, v) ∨ e ∈ l := by
  induction l with
  | nil => simpa [insertEntry] using h
  | cons a r ih =>
    simp only [insertEntry] at h
    split at h
    · simpa using h
    · split at h
      · rcases List.mem_cons.mp h with h | h
        · exact .inl h
        · exact .inr (by simp [h])
      · rcases List.mem_cons.mp h with h | h
        · exact .inr (by simp [h])
        · rcases ih h with h | h
          · exact .inl h
          · exact .inr (by simp [h])

theorem sorted_insertEntry (k : String) (v : β) {l : List (String × β)}
    (h : l.Pairwise fun a b => a.1 < b.1) :
    (insertEntry k v l).Pairwise fun a b => a.1 < b.1 := by
  induction l with
  | nil => simp [insertEntry]
  | cons a r ih =>
    obtain ⟨ha, hr⟩ := List.pairwise_cons.mp h
    simp only [insertEntry]
    split
    · rename_i hlt
      refine List.pairwise_cons.mpr ⟨fun b hb => ?_, h⟩
      rcases List.mem_cons.mp hb with rfl | hb
      · exact hlt
      · exact String.lt_trans hlt (ha b hb)
    · split
      · rename_i heq
        exact List.pairwise_cons.mpr ⟨fun b hb => heq ▸ ha b hb, hr⟩
      · rename_i hlt hne
        refine List.pairwise_cons.mpr ⟨fun b hb => ?_, ih hr⟩
        rcases mem_insertEntry hb with rfl | hb
        · exact String.not_le.mp fun hle => hne (String.le_antisymm hle hlt)
        · exact ha b hb

def empty : TextMap β :=
  ⟨[], .nil⟩

instance : EmptyCollection (TextMap β) := ⟨empty⟩

instance : Inhabited (TextMap β) := ⟨empty⟩

def insert (m : TextMap β) (k : String) (v : β) : TextMap β :=
  ⟨insertEntry k v m.entries, sorted_insertEntry k v m.sorted⟩

/-- The map with an entry that is only given under a condition. -/
def insertIf (m : TextMap β) (given : Bool) (k : String) (v : β) : TextMap β :=
  if given then m.insert k v else m

/-- The map with an entry whose value may be missing. -/
def insertSome (m : TextMap β) (k : String) : Option β → TextMap β
  | some v => m.insert k v
  | none => m

def get? (m : TextMap β) (k : String) : Option β :=
  lookup k m.entries

/-- The entries whose key is selected. -/
def filter (m : TextMap β) (p : String → Bool) : TextMap β :=
  ⟨m.entries.filter fun e => p e.1, m.sorted.sublist List.filter_sublist⟩

def isEmpty (m : TextMap β) : Bool :=
  m.entries.isEmpty

/-- The map of a list of entries; of two with one key the later one counts. -/
def ofList (l : List (String × β)) : TextMap β :=
  l.foldl (fun m e => m.insert e.1 e.2) empty

theorem lookup_insertEntry (k : String) (v : β) (l : List (String × β)) (x : String) :
    lookup x (insertEntry k v l) = if x = k then some v else lookup x l := by
  induction l with
  | nil => simp [insertEntry, lookup]
  | cons a r ih =>
    simp only [insertEntry]
    split
    · simp [lookup]
    · split
      · rename_i h
        subst h
        simp only [lookup]
        split <;> simp_all
      · rename_i h
        simp only [lookup, ih]
        split
        · rename_i hx
          subst hx
          simp [Ne.symm h]
        · rfl

@[simp] theorem get?_empty (x : String) : (empty : TextMap β).get? x = none := rfl

theorem get?_insert (m : TextMap β) (k : String) (v : β) (x : String) :
    (m.insert k v).get? x = if x = k then some v else m.get? x :=
  lookup_insertEntry k v m.entries x

theorem get?_insertSome (m : TextMap β) (k : String) (v : Option β) (x : String) :
    (m.insertSome k v).get? x = if x = k then v.or (m.get? x) else m.get? x := by
  cases v <;> simp [insertSome, get?_insert]

theorem lookup_filter (p : String → Bool) (l : List (String × β)) (x : String) :
    lookup x (l.filter fun e => p e.1) = if p x then lookup x l else none := by
  induction l with
  | nil => simp [lookup]
  | cons a r ih =>
    simp only [List.filter_cons]
    split
    · simp only [lookup, ih]
      split
      · simp_all
      · rfl
    · rename_i ha
      simp only [ih, lookup]
      split
      · split
        · simp_all
        · rfl
      · rfl

theorem get?_filter (m : TextMap β) (p : String → Bool) (x : String) :
    (m.filter p).get? x = if p x then m.get? x else none :=
  lookup_filter p m.entries x

theorem lookup_eq_none {x : String} {l : List (String × β)} (h : ∀ e ∈ l, x < e.1) :
    lookup x l = none := by
  induction l with
  | nil => rfl
  | cons a r ih =>
    have ha : x ≠ a.1 := fun e => String.lt_irrefl _ (e ▸ h a (by simp))
    simp [lookup, ha, ih fun e he => h e (by simp [he])]

theorem mem_of_lookup {x : String} {v : β} {l : List (String × β)} (h : lookup x l = some v) :
    (x, v) ∈ l := by
  induction l with
  | nil => simp [lookup] at h
  | cons a r ih =>
    simp only [lookup] at h
    split at h
    · rename_i hx
      simp only [Option.some.injEq] at h
      subst hx h
      simp
    · simp [ih h]

theorem lookup_of_mem {l : List (String × β)} (hs : l.Pairwise fun a b => a.1 < b.1)
    {e : String × β} (h : e ∈ l) : lookup e.1 l = some e.2 := by
  induction l with
  | nil => simp at h
  | cons a r ih =>
    obtain ⟨ha, hr⟩ := List.pairwise_cons.mp hs
    rcases List.mem_cons.mp h with rfl | h
    · simp [lookup]
    · have hne : e.1 ≠ a.1 := fun he => String.lt_irrefl _ (he ▸ ha e h)
      simp [lookup, hne, ih hr h]

theorem get?_eq_some_iff (m : TextMap β) (k : String) (v : β) :
    m.get? k = some v ↔ (k, v) ∈ m.entries :=
  ⟨mem_of_lookup, fun h => lookup_of_mem m.sorted h⟩

theorem entries_eq_of_lookup {l r : List (String × β)} (hl : l.Pairwise fun a b => a.1 < b.1)
    (hr : r.Pairwise fun a b => a.1 < b.1) (h : ∀ x, lookup x l = lookup x r) : l = r := by
  induction l generalizing r with
  | nil =>
    cases r with
    | nil => rfl
    | cons b r => simpa [lookup] using h b.1
  | cons a l ih =>
    cases r with
    | nil => simpa [lookup] using h a.1
    | cons b r =>
      obtain ⟨ha, hl'⟩ := List.pairwise_cons.mp hl
      obtain ⟨hb, hr'⟩ := List.pairwise_cons.mp hr
      have key : a.1 = b.1 := by
        have ma : (a.1, a.2) ∈ b :: r := mem_of_lookup ((h a.1).symm.trans (by simp [lookup]))
        have mb : (b.1, b.2) ∈ a :: l := mem_of_lookup ((h b.1).trans (by simp [lookup]))
        rcases List.mem_cons.mp ma with e | ma
        · exact congrArg Prod.fst e
        · rcases List.mem_cons.mp mb with e | mb
          · exact (congrArg Prod.fst e).symm
          · exact absurd (String.lt_trans (hb _ ma) (ha _ mb)) (String.lt_irrefl _)
      have value : a.2 = b.2 := by
        have := h a.1
        simpa [lookup, key] using this
      have head : a = b := Prod.ext key value
      subst head
      congr 1
      refine ih hl' hr' fun x => ?_
      by_cases hx : x = a.1
      · subst hx
        rw [lookup_eq_none ha, lookup_eq_none hb]
      · simpa [lookup, hx] using h x

theorem ext_get? {m n : TextMap β} (h : ∀ x, m.get? x = n.get? x) : m = n := by
  obtain ⟨l, hl⟩ := m
  obtain ⟨r, hr⟩ := n
  simp only [mk.injEq]
  exact entries_eq_of_lookup hl hr h

end TextMap

end BinlogCursor
