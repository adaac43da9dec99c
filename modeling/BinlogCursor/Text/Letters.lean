/-
Classes of characters that are asked for one character at a time: word
characters, the characters of names, and characters that can be shown. Names and
shown text go by a later edition of the standard than the properties do, so some
characters are added here.
-/
import BinlogCursor.Text.Property.Derived
import BinlogCursor.Text.Table.Later

namespace BinlogCursor.Text

def isAsciiWord (c : Char) : Bool :=
  c.isAlphanum || c == '_'

def isWordChar (c : Char) : Bool :=
  if c.toNat < 0x80 then isAsciiWord c else Property.Derived.word.contains c

def letters : Ranges :=
  Property.Derived.alphabetic.union (.decode Table.laterLetters)

def isAlphabetic (c : Char) : Bool :=
  letters.contains c

def numbers : Ranges :=
  (Category.rangesOf [.nd, .nl, .no]).union (.decode Table.laterNumbers)

def isNumeric (c : Char) : Bool :=
  numbers.contains c

/-- The characters that show nothing by themselves: controls, unassigned ones, blanks other than the
space, marks, and those that are left out where they cannot be shown. -/
def hidden : Ranges :=
  let others := (Category.rangesOf [.cc, .cf, .cs, .co, .cn, .zl, .zp, .zs]).diff
    ((Ranges.decode Table.laterShown).union [(0x20, 0x20)])
  let marks := Property.Derived.graphemeExtend.union (.decode Table.laterExtenders)
  (others.union marks).union Property.Derived.defaultIgnorableCodePoint

def isShown (c : Char) : Bool :=
  !hidden.contains c

end BinlogCursor.Text
