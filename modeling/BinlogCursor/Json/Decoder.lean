/-
Reading records off JSON nodes. A record stands in an object, by the names of
its fields, or in an array, by their order. Members with other names are not
looked at. An absent field is refused, unless it may be missing (in an object)
or has a default; so is a field that is there twice.
-/
import BinlogCursor.Json.Node

namespace BinlogCursor.Json

/-- Reads a value off a node, if the node holds one. -/
abbrev Decoder (α : Type) := Node → Option α

namespace Decoder

def string : Decoder String
  | .string s => s
  | _ => none

/-- An integer from 0 to below a limit; a number with a point or exponent is none. -/
def natural (limit : Nat) : Decoder Nat
  | .number (some (.integer (.ofNat n))) => if n < limit then some n else none
  | _ => none

def word64 : Decoder UInt64 := fun n =>
  (natural UInt64.size n).map UInt64.ofNat

def word32 : Decoder UInt32 := fun n =>
  (natural UInt32.size n).map UInt32.ofNat

def list {α : Type} (d : Decoder α) : Decoder (List α)
  | .array items => items.mapM d
  | _ => none

/-- A value for which `null` may stand when it is missing. -/
def nullable {α : Type} (d : Decoder α) : Decoder (Option α)
  | .null => some none
  | n => (d n).map some

/-- The name of a choice that carries nothing: a string, or the only key of an object, with
`null` beside it. -/
def choice : Decoder String
  | .string s => s
  | .object [(key, .null)] => key
  | _ => none

end Decoder

/-- The fields of a record that are there, and whether they were given by name. -/
structure Fields where
  named : Bool
  present : List (String × Node)

namespace Fields

/-- The member of an object, put before the fields found after it. -/
def addMember (names : List String) (member : Option String × Node)
    (found : List (String × Node)) : Option (List (String × Node)) :=
  match member with
  | (none, _) => none
  | (some key, value) =>
    if names.contains key then
      if found.any (·.1 == key) then none else some ((key, value) :: found)
    else some found

/-- The members of an object that are fields; every key must be readable. -/
def ofMembers (names : List String) : List (Option String × Node) → Option (List (String × Node))
  | [] => some []
  | member :: rest => do
    let found ← ofMembers names rest
    addMember names member found

/-- The fields of the record that a node holds, their names in order being `names`. -/
def decode (names : List String) : Decoder Fields
  | .object members => (ofMembers names members).map (⟨true, ·⟩)
  | .array items =>
    if items.length ≤ names.length then some ⟨false, names.zip items⟩ else none
  | _ => none

def find? (f : Fields) (name : String) : Option Node :=
  f.present.lookup name

def required {α : Type} (f : Fields) (name : String) (d : Decoder α) : Option α :=
  (f.find? name).bind d

/-- A field that an object may leave out. -/
def optional {α : Type} (f : Fields) (name : String) (d : Decoder α) : Option (Option α) :=
  match f.find? name with
  | some n => Decoder.nullable d n
  | none => if f.named then some none else none

/-- A field with a value of its own when it is left out. -/
def withDefault {α : Type} (f : Fields) (name : String) (d : Decoder α) (default : α) : Option α :=
  match f.find? name with
  | some n => d n
  | none => some default

end Fields

end BinlogCursor.Json
