/-
JSON text as a tree. A node keeps what the text says even where that has no
value: a string with half of a surrogate pair, or a number beyond the range of
the format, is there as `none`. Whether that matters is for those to say who
read the node; a member that nobody asks for may hold either.
-/
import BinlogCursor.Json.Number

namespace BinlogCursor.Json

/-- A JSON text as it stands; `none` is a string or number without a value. -/
inductive Node
  | null
  | bool (value : Bool)
  | number (value : Option Number)
  | string (value : Option String)
  | array (items : List Node)
  | object (members : List (Option String × Node))

namespace Node

mutual

/-- How many arrays and objects lie around the innermost value, itself included. -/
def depth : Node → Nat
  | .array items => itemsDepth items + 1
  | .object members => membersDepth members + 1
  | _ => 0

def itemsDepth : List Node → Nat
  | [] => 0
  | item :: rest => max (depth item) (itemsDepth rest)

def membersDepth : List (Option String × Node) → Nat
  | [] => 0
  | (_, value) :: rest => max (depth value) (membersDepth rest)

end

mutual

/-- Every string and number in the node has a value. -/
def sound : Node → Bool
  | .number value => value.isSome
  | .string value => value.isSome
  | .array items => itemsSound items
  | .object members => membersSound members
  | _ => true

def itemsSound : List Node → Bool
  | [] => true
  | item :: rest => sound item && itemsSound rest

def membersSound : List (Option String × Node) → Bool
  | [] => true
  | (key, value) :: rest => key.isSome && sound value && membersSound rest

end

/-- The depth beyond which a text is refused by those who read all of it. -/
def depthLimit : Nat := 127

def readable (n : Node) : Bool :=
  n.sound && decide (n.depth ≤ depthLimit)

end Node

end BinlogCursor.Json
