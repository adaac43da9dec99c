/-
Places in a log: a file and a byte offset in it. Log files are numbered by the
extension of their names, so two places have an order exactly when their files
differ in the extension alone: first by the number, then by the offset.
-/
import BinlogCursor.Fault
import BinlogCursor.Text.Decimal
import BinlogCursor.Text.Split

namespace BinlogCursor

/-- The name of a log file, split at its last dot into a stem and a number. -/
structure LogFile where
  stem : List Char
  extension : List Char
deriving DecidableEq

namespace LogFile

/-- Splits a name whose stem is not empty and whose extension consists of digits. -/
def parse? (name : String) : Option LogFile :=
  match Text.cutLast '.' name.toList with
  | none => none
  | some (stem, extension) =>
    if stem.isEmpty || extension.isEmpty || !extension.all Text.isDigit then none
    else some ⟨stem, extension⟩

/-- The extension without the zeros that it begins with. -/
def significant (f : LogFile) : List Char :=
  f.extension.dropWhile (· = '0')

/-- The order of the extensions as numbers of any size: the longer is the greater, and of two
of one length the one with the greater first difference. -/
def compareNumber (f g : LogFile) : Ordering :=
  (compare f.significant.length g.significant.length).then (compare f.significant g.significant)

def number? (f : LogFile) : Option UInt64 :=
  (Text.natural? f.extension).bind Text.word64?

end LogFile

/-- A byte offset in a log file. -/
structure Place where
  file : String
  offset : UInt64
deriving DecidableEq

namespace Place

def number? (c : Place) : Option UInt64 :=
  (LogFile.parse? c.file).bind LogFile.number?

/-- The order of two places; files with different stems or without a number have none. -/
def order (a b : Place) : Outcome Ordering :=
  match LogFile.parse? a.file, LogFile.parse? b.file with
  | some f, some g =>
    if f.stem = g.stem then .ok ((f.compareNumber g).then (compare a.offset b.offset))
    else .error (.unrelatedFiles a.file b.file)
  | _, _ => .error (.unrelatedFiles a.file b.file)

def text (c : Place) : String :=
  c.file ++ ":" ++ String.ofList (Text.digits c.offset.toNat)

end Place

end BinlogCursor
