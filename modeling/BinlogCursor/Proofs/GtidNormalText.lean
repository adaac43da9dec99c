/-
The text of a GTID set as its canonical form.

`ordered_listing`: what is written of a set is in order, with nothing left to join.
`denotes_iff_text_eq`: texts say the same exactly when the sets read from them are written the same.
`normal_text_is_canonical` puts this together with reading back: bringing a text into its canonical
form twice is bringing it there once.
-/
import BinlogCursor.Command
import BinlogCursor.Proofs.GtidMeaning

namespace BinlogCursor.GtidSet

variable {g g' : GtidSet} {s s' : String}

/-- Entries in their canonical order: the servers increase strictly, and between two intervals of a
server some number is left out. -/
structure Ordered (es : List (String × List Interval)) : Prop where
  servers : (es.map Prod.fst).Pairwise (· < ·)
  gaps : ∀ e ∈ es, e.2.Pairwise fun i j => i.last.toNat + 1 < j.first.toNat

theorem ordered_listing (h : g.WellFormed) : Ordered g.listing where
  servers := by
    rw [listing, List.map_map]
    exact List.pairwise_map.2 g.servers.sorted
  gaps := by
    intro e he
    obtain ⟨a, ha, rfl⟩ := List.mem_map.1 he
    exact (h a ha).canonical.2

theorem normalizeGtid_of_parse (h : parse s = .ok g) : Command.normalizeGtid s = .ok g.text := by
  rw [Command.normalizeGtid, h]
  rfl

/-- Texts say the same exactly when what is read from them is written the same. -/
theorem denotes_iff_text_eq (h : parse s = .ok g) (h' : parse s' = .ok g') :
    (∀ server n, Denotes s server n ↔ Denotes s' server n) ↔ g.text = g'.text := by
  rw [text_inj (.of_parse h) (.of_parse h')]
  simp only [← holds_iff_denotes h, ← holds_iff_denotes h']
  constructor
  · intro hall
    refine ext_transactions (.of_parse h) (.of_parse h') ?_
    ext ⟨server, n⟩
    exact hall server n
  · rintro rfl server n
    exact Iff.rfl

/-- **The canonical form.** A set that was read, or what a filter leaves of one, is read back from
its text, where the empty set stands for no set at all. So the text that is written of what was read
from `s` is its own canonical form; it has no blanks, lists the servers in strict order, each with
strictly increasing intervals and a gap between neighbours; and it is the same text for two texts
exactly when both say that the same transactions have been executed. -/
theorem normal_text_is_canonical :
    (∀ g : GtidSet, g.FromText → parse g.text = .ok g ∧
        parseUnlessBlank (some g.text) = .ok (if g.isEmpty then none else some g)) ∧
      (∀ s g, parse s = .ok g → Command.normalizeGtid s = .ok g.text ∧
        Command.normalizeGtid g.text = .ok g.text ∧
        (∀ c ∈ g.text.toList, Text.isBlank c = false) ∧
        ∃ es, Spelled g.text.toList es ∧ Ordered es) ∧
      ∀ s s' g g', parse s = .ok g → parse s' = .ok g' →
        ((∀ server n, Denotes s server n ↔ Denotes s' server n) ↔ g.text = g'.text) := by
  refine ⟨fun g hg => ⟨parse_text hg.wellFormed, parseUnlessBlank_text hg.wellFormed⟩,
    fun s g hg => ?_, fun s s' g g' => denotes_iff_text_eq⟩
  have hwf := WellFormed.of_parse hg
  refine ⟨normalizeGtid_of_parse hg, normalizeGtid_of_parse (parse_text hwf), ?_⟩
  rw [text, String.toList_ofList]
  exact ⟨fun c hc => not_isBlank_of_mem_chars hwf hc, g.listing, spelled_chars hwf,
    ordered_listing hwf⟩

/-- A text with its servers out of order and a range in parts, and what filters leave of it. -/
theorem normal_text_is_canonical_of_parts :
    ∃ g, parse "b:7, a:2:1" = .ok g ∧ Command.normalizeGtid "b:7, a:2:1" = .ok "a:1-2,b:7" ∧
      Command.normalizeGtid "a:1-2,b:7" = .ok "a:1-2,b:7" ∧
      parse (g.restrict (· == "a")).text = .ok (g.restrict (· == "a")) ∧
      parseUnlessBlank (some (g.restrict (· == "c")).text) = .ok none := by
  have hs : Spelled (Text.squeeze "b:7, a:2:1".toList)
      [("b", [⟨7, 7⟩]), ("a", [⟨2, 2⟩, ⟨1, 1⟩])] := by decide
  obtain ⟨n, hn, hlisting, htext, hempty⟩ : ∃ n : GtidSet, n.WellFormed ∧
      n.listing = [("a", [⟨1, 2⟩]), ("b", [⟨7, 7⟩])] ∧ n.text = "a:1-2,b:7" ∧
      (n.restrict (· == "c")).isEmpty = true :=
    ⟨⟨(TextMap.empty.insert "a" ⟨[⟨1, 2⟩]⟩).insert "b" ⟨[⟨7, 7⟩]⟩⟩, by decide⟩
  have hg := parse_eq_ok_iff.2 ⟨_, hs, rfl⟩
  obtain ⟨hback, hnormal, hsame⟩ := normal_text_is_canonical
  have hequal := (hsame _ _ _ _ hg (parse_text hn)).1 fun server m => by
    have hsn : Spelled (Text.squeeze n.text.toList) n.listing := by
      rw [squeeze_chars hn]
      exact spelled_chars hn
    rw [denotes_iff_spelled hs, denotes_iff_spelled hsn, hlisting]
    simp only [says_cons_iff, not_says_nil, List.mem_cons, List.not_mem_nil, or_false,
      exists_eq_or_imp, exists_eq_left]
    grind
  obtain ⟨hto, hof, -⟩ := hnormal _ _ hg
  rw [hequal, htext] at hto hof
  have hfrom := FromText.parsed hg
  refine ⟨_, hg, hto, hof, (hback _ (hfrom.restricted _)).1, ?_⟩
  rw [(hback _ (hfrom.restricted _)).2, (text_inj (.of_parse hg) hn).1 hequal, if_pos hempty]

end BinlogCursor.GtidSet
