/-
Reading a text by itself and with more text behind it that begins with a closing
parenthesis, `')' :: s`. A part of a pattern is read in the one as in the other,
or the text ends within it (`Apart`, `Meets`); only a comment goes on behind the
text in which it begins (`Remains`). A reader that is put together from others
keeps this (`Apart.bind`, `Meets.bind`).
-/
import BinlogCursor.Pattern.Reader.Number
import BinlogCursor.Text.Split

namespace BinlogCursor.Pattern

variable {α β : Type} {s cs x z : List Char}

/-! ## What is left of a text -/

theorem skipComments_suffix (inComment : Bool) (cs : List Char) :
    skipComments inComment cs <:+ cs := by
  induction cs generalizing inComment with
  | nil => exact List.suffix_rfl
  | cons c cs ih =>
    simp only [skipComments]
    split
    · exact (ih _).trans (List.suffix_cons c cs)
    · split
      · exact (ih _).trans (List.suffix_cons c cs)
      · split
        · exact (ih _).trans (List.suffix_cons c cs)
        · exact List.suffix_rfl

theorem skipIgnored_suffix (verbose : Bool) (cs : List Char) : skipIgnored verbose cs <:+ cs := by
  rw [skipIgnored]
  split
  · exact skipComments_suffix false cs
  · exact List.suffix_rfl

/-- What is left of a text by itself, and what is left of it with `')' :: s` behind it: the same
and what is behind, or, where the text ends in a comment, what is left of `s` after the comment. -/
inductive Remains (s z z' : List Char) : Prop
  | same (h : z' = z ++ ')' :: s)
  | comment (h : z = []) (h' : z' = skipComments true s)

theorem skipComments_remains (inComment : Bool) (s cs : List Char) :
    Remains s (skipComments inComment cs) (skipComments inComment (cs ++ ')' :: s)) := by
  induction cs generalizing inComment with
  | nil =>
    cases inComment with
    | false => exact .same rfl
    | true => exact .comment rfl rfl
  | cons c cs ih =>
    simp only [List.cons_append, skipComments]
    split
    · exact ih _
    · split
      · exact ih _
      · split
        · exact ih _
        · exact .same rfl

theorem skipIgnored_remains (verbose : Bool) (s cs : List Char) :
    Remains s (skipIgnored verbose cs) (skipIgnored verbose (cs ++ ')' :: s)) := by
  simp only [skipIgnored]
  split
  · exact skipComments_remains false s cs
  · exact .same rfl

theorem skipIgnored_nil (verbose : Bool) : skipIgnored verbose [] = [] := by
  cases verbose <;> rfl

theorem Remains.suffix {z' : List Char} (h : Remains s [] z') : z' <:+ ')' :: s := by
  cases h with
  | same h => exact h ▸ List.suffix_rfl
  | comment _ h' => exact h' ▸ (skipComments_suffix true s).trans (List.suffix_cons _ s)

theorem suffix_of_some {a b : α} (h : some (a, z) = some (b, x)) : x <:+ z := by
  obtain ⟨-, rfl⟩ := Prod.mk.inj (Option.some.inj h)
  exact List.suffix_rfl

theorem suffix_of_cons_suffix {c d : Char} {x s : List Char} (h : c :: x <:+ d :: s) : x <:+ s := by
  rcases List.suffix_cons_iff.mp h with h | h
  · exact (List.cons.inj h).2 ▸ List.suffix_rfl
  · exact (List.suffix_cons c x).trans h

/-- Something is taken of a text if more than its first character is left out. -/
theorem exists_cons_suffix (h : x <:+ cs) (c : Char) : ∃ d, d :: x <:+ c :: cs := by
  obtain ⟨u, rfl⟩ := h
  rcases List.eq_nil_or_concat (c :: u) with hu | ⟨v, d, hu⟩
  · cases hu
  · exact ⟨d, v, by rw [← List.cons_append, hu]; simp⟩

/-- What stands at the beginning of the text with more behind it stands there in the text by itself,
if there is no parenthesis in it. -/
theorem not_begins {p : List Char} (hp : ')' ∉ p) (h : ∀ rest, cs ≠ p ++ rest) :
    ∀ rest, cs ++ ')' :: s ≠ p ++ rest := by
  intro rest heq
  rcases List.append_eq_append_iff.mp heq with ⟨more, hmore, heq⟩ | ⟨more, hmore, heq⟩
  · cases more with
    | nil => exact h [] (by simpa using hmore.symm)
    | cons c more =>
      obtain ⟨rfl, -⟩ := List.cons.inj heq
      exact hp (by simp [hmore])
  · exact h more hmore

/-! ## Reading a text by itself and with more behind it -/

/-- What is read of a text by itself, and of the text with `')' :: s` behind it: the same, unless
the text ends in a comment, which then goes on, or is refused by itself. Then a part of `s` is taken
if anything is read. -/
inductive Apart (s : List Char) (o o' : Option (α × List Char)) : Prop
  | read (a : α) (z : List Char) (h : o = some (a, z)) (h' : o' = some (a, z ++ ')' :: s))
  | comment (a : α) (h : o = some (a, []))
      (hend : skipComments true s = [] → o' = some (a, []))
      (h' : ∀ b x, o' = some (b, x) → x <:+ s)
  | refused (h : o = none) (h' : ∀ a x, o' = some (a, x) → x <:+ s)

/-- What is read of a text by itself, and of the text with `')' :: s` behind it: the same, or the
text is read to its end by itself if at all. -/
inductive Meets (s : List Char) (o o' : Option (α × List Char)) : Prop
  | same (a : α) (z : List Char) (h : o = some (a, z)) (h' : o' = some (a, z ++ ')' :: s))
  | atEnd (h : ∀ a z, o = some (a, z) → z = []) (h' : ∀ a x, o' = some (a, x) → x <:+ ')' :: s)

theorem Apart.none : Apart s (none : Option (α × List Char)) none :=
  .refused rfl nofun

theorem Apart.pure (a : α) {z z' : List Char} (h : Remains s z z') :
    Apart s (some (a, z)) (some (a, z')) := by
  cases h with
  | same h => exact .read a z rfl (h ▸ rfl)
  | comment h h' =>
    subst h h'
    refine .comment a rfl (fun hend => by rw [hend]) fun b x hx => ?_
    obtain ⟨-, rfl⟩ := Prod.mk.inj (Option.some.inj hx)
    exact skipComments_suffix true s

theorem Apart.meets {o o' : Option (α × List Char)} (h : Apart s o o') : Meets s o o' := by
  have hbehind : ∀ {x}, x <:+ s → x <:+ ')' :: s := fun hx => hx.trans (List.suffix_cons _ s)
  cases h with
  | read a z h h' => exact .same a z h h'
  | comment a h _ h' =>
    refine .atEnd (fun b y hy => ?_) fun b x hx => hbehind (h' b x hx)
    exact (Prod.mk.inj (Option.some.inj (hy.symm.trans h))).2
  | refused h h' => exact .atEnd (fun b y hy => by simp_all) fun b x hx => hbehind (h' b x hx)

theorem suffix_of_bind {f : α × List Char → Option (β × List Char)} {o : Option (α × List Char)}
    (hf : ∀ a z b x, f (a, z) = some (b, x) → x <:+ z) {b : β} (h : o.bind f = some (b, x)) :
    ∃ a z, o = some (a, z) ∧ x <:+ z := by
  obtain ⟨⟨a, z⟩, hz, hx⟩ := Option.bind_eq_some_iff.mp h
  exact ⟨a, z, hz, hf a z b x hx⟩

/-- What comes next may have more fuel with more text behind; where a comment goes on to the end of
all text, both see the end of a text. -/
theorem Apart.bind {f g : α × List Char → Option (β × List Char)}
    {o o' : Option (α × List Char)} (h : Apart s o o')
    (hf : ∀ a z, o = some (a, z) → Apart s (f (a, z)) (g (a, z ++ ')' :: s)))
    (hnil : ∀ a, f (a, []) = g (a, []))
    (hg : ∀ a z b x, g (a, z) = some (b, x) → x <:+ z) : Apart s (o.bind f) (o'.bind g) := by
  cases h with
  | read a z h h' =>
    rw [h, h']
    exact hf a z h
  | comment a h hend h' =>
    have hbehind : ∀ b x, o'.bind g = some (b, x) → x <:+ s := fun b x hx => by
      obtain ⟨c, z, hz, hx⟩ := suffix_of_bind hg hx
      exact hx.trans (h' c z hz)
    rw [h, Option.bind_some]
    cases hnext : f (a, []) with
    | none => exact .refused rfl hbehind
    | some p =>
      obtain ⟨b, x⟩ := p
      obtain rfl := List.suffix_nil.mp (hg a [] b x (hnil a ▸ hnext))
      refine .comment b rfl (fun hs => ?_) hbehind
      rw [hend hs, Option.bind_some, ← hnil, hnext]
  | refused h h' =>
    rw [h]
    refine .refused rfl fun b x hx => ?_
    obtain ⟨a, z, hz, hx⟩ := suffix_of_bind hg hx
    exact hx.trans (h' a z hz)

theorem exists_of_filterMap {f : α → Option β} {o : Option (α × List Char)} {b : β}
    (h : (o.bind fun p => (f p.1).map (·, p.2)) = some (b, x)) : ∃ a, o = some (a, x) := by
  obtain ⟨⟨a, z⟩, hz, hx⟩ := Option.bind_eq_some_iff.mp h
  obtain ⟨_, -, hx⟩ := Option.map_eq_some_iff.mp hx
  obtain ⟨-, rfl⟩ := Prod.mk.inj hx
  exact ⟨a, hz⟩

theorem exists_of_map {f : α → β} {o : Option (α × List Char)} {b : β}
    (h : (o.map fun p => (f p.1, p.2)) = some (b, x)) : ∃ a, o = some (a, x) := by
  rw [Option.map_eq_bind] at h
  exact exists_of_filterMap (f := fun a => some (f a)) h

/-- What is found may be refused, or changed, whatever is left of the text. -/
theorem Apart.filterMap {o o' : Option (α × List Char)} (h : Apart s o o') (f : α → Option β) :
    Apart s (o.bind fun p => (f p.1).map (·, p.2)) (o'.bind fun p => (f p.1).map (·, p.2)) := by
  refine h.bind (fun a z _ => ?_) (fun a => rfl) fun a z b x hx => ?_
  · dsimp only
    cases f a with
    | none => exact .none
    | some b => exact .pure b (.same rfl)
  · obtain ⟨_, -, hx⟩ := Option.map_eq_some_iff.mp hx
    exact (Prod.mk.inj hx).2 ▸ List.suffix_rfl

theorem Apart.map {o o' : Option (α × List Char)} (h : Apart s o o') (f : α → β) :
    Apart s (o.map fun p => (f p.1, p.2)) (o'.map fun p => (f p.1, p.2)) := by
  rw [Option.map_eq_bind, Option.map_eq_bind]
  exact h.filterMap fun a => some (f a)

/-- What comes next refuses the end of a text, and takes a character of any other. -/
theorem Meets.bind {f g : α × List Char → Option (β × List Char)}
    {o o' : Option (α × List Char)} (h : Meets s o o')
    (hf : ∀ a z, o = some (a, z) → Apart s (f (a, z)) (g (a, z ++ ')' :: s)))
    (hnil : ∀ a, f (a, []) = none)
    (hg : ∀ a z b x, g (a, z) = some (b, x) → ∃ c, c :: x <:+ z) :
    Apart s (o.bind f) (o'.bind g) := by
  cases h with
  | same a z h h' =>
    rw [h, h']
    exact hf a z h
  | atEnd h h' =>
    refine .refused ?_ fun b x hx => ?_
    · rw [Option.bind_eq_none_iff]
      rintro ⟨a, z⟩ hz
      obtain rfl := h a z hz
      exact hnil a
    · obtain ⟨⟨a, z⟩, hz, hx⟩ := Option.bind_eq_some_iff.mp hx
      obtain ⟨c, hc⟩ := hg a z b x hx
      exact suffix_of_cons_suffix (hc.trans (h' a z hz))

/-- What is read behind blanks; where a comment goes on to the end of all text, the end of a text is
read by itself as well. -/
theorem Remains.apart {f g : List Char → Option (α × List Char)} {z z' : List Char}
    (h : Remains s z z') (hsame : z' = z ++ ')' :: s → Apart s (f z) (g z')) (hnil : f [] = g [])
    (hg : ∀ z a x, g z = some (a, x) → x <:+ z) : Apart s (f z) (g z') := by
  cases h with
  | same hz => exact hsame hz
  | comment hz hz' =>
    subst hz hz'
    have hbehind : ∀ a x, g (skipComments true s) = some (a, x) → x <:+ s := fun a x hx =>
      (hg _ a x hx).trans (skipComments_suffix true s)
    cases hread : f [] with
    | none => exact .refused rfl hbehind
    | some p =>
      obtain ⟨a, x⟩ := p
      obtain rfl := List.suffix_nil.mp (hg [] a x (hnil ▸ hread))
      exact .comment a rfl (fun hs => by rw [hs, ← hnil, hread]) hbehind

theorem Meets.bind_meets {f : α × List Char → Option (β × List Char)}
    {o o' : Option (α × List Char)} (h : Meets s o o')
    (hf : ∀ a z, Meets s (f (a, z)) (f (a, z ++ ')' :: s)))
    (hsuffix : ∀ a z b x, f (a, z) = some (b, x) → x <:+ z) : Meets s (o.bind f) (o'.bind f) := by
  cases h with
  | same a z h h' =>
    rw [h, h']
    exact hf a z
  | atEnd h h' =>
    refine .atEnd (fun b y hy => ?_) fun b x hx => ?_
    · obtain ⟨a, z, hz, hy⟩ := suffix_of_bind hsuffix hy
      obtain rfl := h a z hz
      exact List.suffix_nil.mp hy
    · obtain ⟨a, z, hz, hx⟩ := suffix_of_bind hsuffix hx
      exact hx.trans (h' a z hz)

theorem Remains.meets {f g : List Char → Option (α × List Char)} {z z' : List Char}
    (h : Remains s z z') (hsame : z' = z ++ ')' :: s → Meets s (f z) (g z'))
    (hf : ∀ z a x, f z = some (a, x) → x <:+ z) (hg : ∀ z a x, g z = some (a, x) → x <:+ z) :
    Meets s (f z) (g z') := by
  cases h with
  | same hz => exact hsame hz
  | comment hz hz' =>
    rw [hz]
    refine .atEnd (fun a x hx => List.suffix_nil.mp (hf [] a x hx)) fun a x hx => ?_
    rw [hz'] at hx
    exact ((hg _ a x hx).trans (skipComments_suffix true s)).trans (List.suffix_cons _ s)

/-- What never refuses is read behind blanks as well. -/
theorem Remains.meets_some {f g : List Char → α × List Char} {z z' : List Char}
    (h : Remains s z z') (hsame : z' = z ++ ')' :: s → Meets s (some (f z)) (some (g z')))
    (hf : ∀ z, (f z).2 <:+ z) (hg : ∀ z, (g z).2 <:+ z) : Meets s (some (f z)) (some (g z')) := by
  have hsuffix : ∀ {f : List Char → α × List Char}, (∀ z, (f z).2 <:+ z) →
      ∀ z a x, some (f z) = some (a, x) → x <:+ z := by
    intro f hf z a x hx
    have hz := hf z
    rwa [Option.some.inj hx] at hz
  exact h.meets (f := fun z => some (f z)) (g := fun z => some (g z)) hsame (hsuffix hf)
    (hsuffix hg)

/-- The fuel for a text with more behind it is enough for the text and for what is behind it. -/
theorem fuel_lt (s cs : List Char) : cs.length + 1 + s.length < (cs ++ ')' :: s).length + 1 := by
  rw [List.length_append, List.length_cons]
  omega

/-! ## Reading up to a mark -/

theorem cutFirst_apart {sep : Char} (hsep : sep ≠ ')') (s cs : List Char) :
    Apart s (Text.cutFirst sep cs) (Text.cutFirst sep (cs ++ ')' :: s)) := by
  induction cs with
  | nil =>
    refine .refused rfl fun before x h => ?_
    obtain ⟨h, hsep'⟩ := Text.cutFirst_eq_some_iff.mp h
    cases before with
    | nil => exact absurd (List.cons.inj h).1.symm hsep
    | cons b before =>
      have hs := (List.cons.inj h).2
      exact ⟨before ++ [sep], by rw [List.append_assoc]; exact hs.symm⟩
  | cons c cs ih =>
    rw [List.cons_append, Text.cutFirst, Text.cutFirst]
    split
    · exact .pure [] (.same rfl)
    · exact ih.map (c :: ·)

theorem cutFirst_suffix {sep : Char} {before : List Char}
    (h : Text.cutFirst sep cs = some (before, x)) : x <:+ cs := by
  obtain ⟨rfl, -⟩ := Text.cutFirst_eq_some_iff.mp h
  exact ⟨before ++ [sep], by simp⟩

end BinlogCursor.Pattern
