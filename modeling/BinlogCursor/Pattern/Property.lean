/-
Properties of characters as patterns ask for them: by the name of a category, a
script or a property, or by a property and its value. Case, blanks, hyphens and
underscores in a name do not count, nor does `is` in front of it.
-/
import BinlogCursor.Pattern.Expr
import BinlogCursor.Text.Break
import BinlogCursor.Text.Edition
import BinlogCursor.Text.Property
import BinlogCursor.Text.Script

namespace BinlogCursor.Pattern

/-- What of a name counts. -/
def plainName (cs : List Char) : String :=
  let counts := fun c : Char => c.toNat < 0x80 && c != ' ' && c != '_' && c != '-'
  let plain := fun cs : List Char => (cs.filter counts).map Char.toLower
  match cs with
  | i :: s :: rest =>
    if i.toLower == 'i' && s.toLower == 's' then
      if plain rest == ['c'] then "isc" else String.ofList (plain rest)
    else String.ofList (plain cs)
  | cs => String.ofList (plain cs)

def rangesOfName? (name : String) : Option Text.Ranges :=
  ((Text.Property.ofName? name).map Text.Property.ranges).or
    ((Text.Category.ofName? name).or ((Text.Script.ofName? name).map Text.Script.ranges))

def rangesOfValue? (name value : String) : Option Text.Ranges :=
  match name with
  | "gc" | "generalcategory" => Text.Category.ofName? value
  | "sc" | "script" => (Text.Script.ofName? value).map Text.Script.ranges
  | "scx" | "scriptextensions" => (Text.Script.ofName? value).map Text.Script.extension
  | "age" => (Text.Edition.ofName? value).map Text.Edition.ranges
  | "gcb" | "graphemeclusterbreak" => Text.Break.clusterPart? value
  | "wb" | "wordbreak" => Text.Break.wordPart? value
  | "sb" | "sentencebreak" => Text.Break.sentencePart? value
  | _ => none

/-- The characters that are named; whether the others are asked for is left aside. -/
def PropertyQuery.ranges? : PropertyQuery → Option Text.Ranges
  | .letter c => rangesOfName? (plainName [c])
  | .named name => rangesOfName? (plainName name)
  | .valued name value _ => rangesOfValue? (plainName name) (plainName value)

/-- The characters with another value are asked for. -/
def PropertyQuery.differs : PropertyQuery → Bool
  | .valued _ _ differs => differs
  | _ => false

end BinlogCursor.Pattern
