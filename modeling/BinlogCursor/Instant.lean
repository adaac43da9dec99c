/-
Instants of time, and their text after RFC 3339. Reading is lenient: blanks may
stand between the parts, numbers need no leading zeros, years beyond four digits
need a sign, and the colon of the offset may be missing. What is written is in
universal time, with as many groups of three fraction digits as are needed.
-/
import BinlogCursor.Text.Blank
import BinlogCursor.Text.Decimal

namespace BinlogCursor

/-- Seconds since the beginning of 1970, and nanoseconds from there. A leap second is told by
`10 ^ 9` nanoseconds and more. -/
structure Instant where
  seconds : Int
  nanos : Nat
deriving DecidableEq

structure Date where
  year : Int
  month : Nat
  day : Nat
deriving DecidableEq

namespace Date

def isLeapYear (year : Int) : Bool :=
  year % 4 == 0 && (year % 100 != 0 || year % 400 == 0)

/-- The length of a month, and 0 for what is none. -/
def daysInMonth (year : Int) (month : Nat) : Nat :=
  match month with
  | 2 => if isLeapYear year then 29 else 28
  | 4 | 6 | 9 | 11 => 30
  | 1 | 3 | 5 | 7 | 8 | 10 | 12 => 31
  | _ => 0

/-- The first and the last year that a date may have. -/
def yearBounds : Int × Int := (-262143, 262142)

def isValid (d : Date) : Bool :=
  yearBounds.1 ≤ d.year && d.year ≤ yearBounds.2 && 1 ≤ d.day && d.day ≤ daysInMonth d.year d.month

/-- The days from the beginning of 1970 to a date. Years are counted from March, so that the day
that leap years have more is their last; 400 of them make an era of 146097 days. -/
def toDays (d : Date) : Int :=
  let year := if d.month ≤ 2 then d.year - 1 else d.year
  let era := year / 400
  let yearOfEra := year % 400
  let monthFromMarch : Int := (d.month + 9) % 12
  let dayOfYear := (153 * monthFromMarch + 2) / 5 + d.day - 1
  let dayOfEra := yearOfEra * 365 + yearOfEra / 4 - yearOfEra / 100 + dayOfYear
  era * 146097 + dayOfEra - 719468

/-- The date that lies some days after the beginning of 1970. -/
def ofDays (days : Int) : Date :=
  let days := days + 719468
  let era := days / 146097
  let dayOfEra := days % 146097
  let yearOfEra :=
    (dayOfEra - dayOfEra / 1460 + dayOfEra / 36524 - dayOfEra / 146096) / 365
  let dayOfYear := dayOfEra - (365 * yearOfEra + yearOfEra / 4 - yearOfEra / 100)
  let monthFromMarch := (5 * dayOfYear + 2) / 153
  let day := dayOfYear - (153 * monthFromMarch + 2) / 5 + 1
  let month := if monthFromMarch < 10 then monthFromMarch + 3 else monthFromMarch - 9
  let year := yearOfEra + era * 400 + if month ≤ 2 then 1 else 0
  ⟨year, month.toNat, day.toNat⟩

end Date

namespace Instant

def daySeconds : Int := 86400

def milliseconds (t : Instant) : Int :=
  t.seconds * 1000 + t.nanos / 1000000

/-! ## Writing -/

/-- A number with leading zeros up to a width. -/
def padded (width n : Nat) : List Char :=
  let ds := Text.digits n
  List.replicate (width - ds.length) '0' ++ ds

/-- A year: four digits, and a sign if four digits do not hold it or it is negative. -/
def yearChars (year : Int) : List Char :=
  if 0 ≤ year && year ≤ 9999 then padded 4 year.toNat
  else (if year < 0 then '-' else '+') :: padded 4 year.natAbs

/-- A fraction of a second, in as few groups of three digits as hold it. -/
def fractionChars (nanos : Nat) : List Char :=
  if nanos = 0 then []
  else if nanos % 1000000 = 0 then '.' :: padded 3 (nanos / 1000000)
  else if nanos % 1000 = 0 then '.' :: padded 6 (nanos / 1000)
  else '.' :: padded 9 nanos

def chars (t : Instant) : List Char :=
  let date := Date.ofDays (t.seconds / daySeconds)
  let second := (t.seconds % daySeconds).toNat
  let leap := t.nanos / 1000000000
  yearChars date.year ++ '-' :: padded 2 date.month ++ '-' :: padded 2 date.day ++
    'T' :: padded 2 (second / 3600) ++ ':' :: padded 2 (second / 60 % 60) ++
    ':' :: padded 2 (second % 60 + leap) ++ fractionChars (t.nanos % 1000000000) ++ ['Z']

def text (t : Instant) : String :=
  String.ofList t.chars

/-! ## Reading -/

/-- Reads a number of at least one digit and at most so many. -/
def readNumber (most : Nat) (cs : List Char) : Option (Nat × List Char) :=
  let ds := (cs.take most).takeWhile Text.isDigit
  if ds.isEmpty then none else some (Text.digitsValue ds, cs.drop ds.length)

/-- Reads a number with blanks in front of it. -/
def readPart (most : Nat) (cs : List Char) : Option (Nat × List Char) :=
  readNumber most (Text.trimStart cs)

/-- Reads a mark with blanks in front of it. -/
def readMark (mark : Char) (cs : List Char) : Option (List Char) :=
  match Text.trimStart cs with
  | c :: rest => if c = mark then some rest else none
  | [] => none

/-- Reads a year: up to four digits, or a sign and any number of them. -/
def readYear (cs : List Char) : Option (Int × List Char) :=
  match Text.trimStart cs with
  | '-' :: rest => (readNumber rest.length rest).map fun (n, rest) => (-(n : Int), rest)
  | '+' :: rest => (readNumber rest.length rest).map fun (n, rest) => ((n : Int), rest)
  | rest => (readNumber 4 rest).map fun (n, rest) => ((n : Int), rest)

/-- Reads a fraction of a second, in nanoseconds; from the tenth digit on they do not count. -/
def readFraction : List Char → Option (Nat × List Char)
  | '.' :: cs => do
    let ds := (cs.take 9).takeWhile Text.isDigit
    if ds.isEmpty then none
    else some (Text.digitsValue ds * Nat.pow 10 (9 - ds.length), cs.dropWhile Text.isDigit)
  | cs => some (0, cs)

def twoDigits? (a b : Char) : Option Nat :=
  if Text.isDigit a && Text.isDigit b then some (Text.digitsValue [a, b]) else none

/-- Reads the hours and minutes of an offset. -/
def readClock : List Char → Option (Int × List Char)
  | a :: b :: rest => do
    let hours ← twoDigits? a b
    match rest.dropWhile fun c => c == ':' || Text.isBlank c with
    | c :: d :: rest =>
      let minutes ← twoDigits? c d
      if minutes < 60 then some ((hours * 3600 + minutes * 60 : Nat), rest) else none
    | _ => none
  | _ => none

/-- Reads the offset from universal time, in seconds. -/
def readOffset : List Char → Option (Int × List Char)
  | 'Z' :: rest => some (0, rest)
  | 'z' :: rest => some (0, rest)
  | '+' :: rest => readClock rest
  | '-' :: rest => (readClock rest).map fun (s, rest) => (-s, rest)
  | '−' :: rest => (readClock rest).map fun (s, rest) => (-s, rest)
  | a :: b :: c :: rest =>
    if [a, b, c].map Char.toUpper = ['U', 'T', 'C'] then some (0, rest) else none
  | _ => none

/-- A date within the bounds, a time of day and an offset of less than a day make an instant,
unless the offset leads out of the bounds. -/
def ofParts (date : Date) (hour minute second nanos : Nat) (offset : Int) : Option Instant :=
  if date.isValid && decide (hour < 24) && decide (minute < 60) && decide (second ≤ 60) &&
      decide (-daySeconds < offset) && decide (offset < daySeconds) then
    let (second, nanos) := if second = 60 then (59, nanos + 1000000000) else (second, nanos)
    let time : Int := hour * 3600 + minute * 60 + second
    let seconds := date.toDays * daySeconds + time - offset
    if (Date.ofDays (seconds / daySeconds)).isValid then some ⟨seconds, nanos⟩ else none
  else none

def parse? (s : String) : Option Instant := do
  let (year, cs) ← readYear s.toList
  let cs ← readMark '-' cs
  let (month, cs) ← readPart 2 cs
  let cs ← readMark '-' cs
  let (day, cs) ← readPart 2 cs
  let cs ←
    match cs with
    | c :: cs => if c = 't' || c = 'T' || c = ' ' then some cs else none
    | [] => none
  let (hour, cs) ← readPart 2 cs
  let cs ← readMark ':' cs
  let (minute, cs) ← readPart 2 cs
  let cs ← readMark ':' cs
  let (second, cs) ← readPart 2 cs
  let (nanos, cs) ← readFraction cs
  let (offset, cs) ← readOffset (Text.trimStart cs)
  if (Text.trimStart cs).isEmpty then ofParts ⟨year, month, day⟩ hour minute second nanos offset
  else none

end Instant

end BinlogCursor
