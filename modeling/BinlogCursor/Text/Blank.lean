/-
Blank characters: the `White_Space` property of Unicode, and the two ways in
which text is freed of them, at its ends (`trim`) and throughout (`squeeze`).
Main statements: what is left holds no blank where none may stand
(`not_isBlank_of_mem_squeeze`), and a text without blanks is left alone
(`squeeze_eq_self`, `trim_eq_self`).
-/

namespace BinlogCursor.Text

/-- The `White_Space` property of Unicode. -/
def isBlank (c : Char) : Bool :=
  let n := c.toNat
  (0x09 ≤ n && n ≤ 0x0D) || n == 0x20 || n == 0x85 || n == 0xA0 || n == 0x1680 ||
    (0x2000 ≤ n && n ≤ 0x200A) || n == 0x2028 || n == 0x2029 || n == 0x202F || n == 0x205F ||
    n == 0x3000

def trimStart (cs : List Char) : List Char :=
  cs.dropWhile isBlank

def trimEnd (cs : List Char) : List Char :=
  (trimStart cs.reverse).reverse

def trim (cs : List Char) : List Char :=
  trimEnd (trimStart cs)

/-- A text without any of its blanks. -/
def squeeze (cs : List Char) : List Char :=
  cs.filter fun c => !isBlank c

theorem not_isBlank_of_mem_squeeze {cs : List Char} {c : Char} (h : c ∈ squeeze cs) :
    isBlank c = false := by
  simpa using (List.mem_filter.mp h).2

theorem squeeze_eq_self {cs : List Char} (h : ∀ c ∈ cs, isBlank c = false) :
    squeeze cs = cs := by
  simp only [squeeze, List.filter_eq_self]
  intro c hc
  simp [h c hc]

theorem trimStart_eq_self {cs : List Char} (h : ∀ c ∈ cs, isBlank c = false) :
    trimStart cs = cs := by
  cases cs with
  | nil => rfl
  | cons c r => simp [trimStart, h c (by simp)]

theorem trim_eq_self {cs : List Char} (h : ∀ c ∈ cs, isBlank c = false) : trim cs = cs := by
  have hr : ∀ c ∈ cs.reverse, isBlank c = false := fun c hc => h c (by simpa using hc)
  simp [trim, trimEnd, trimStart_eq_self h, trimStart_eq_self hr]

end BinlogCursor.Text
