/-
JSON values. The members of an object are kept in increasing order of their
keys; of two members with one key the later one counts. A value is written
without blanks.
-/
import BinlogCursor.Json.Node.Reader
import BinlogCursor.TextMap

namespace BinlogCursor

/-- A JSON value. The keys of an object are in strictly increasing order. -/
inductive Json
  | null
  | bool (value : Bool)
  | number (value : Json.Number)
  | string (value : String)
  | array (items : List Json)
  | object (members : List (String × Json))

namespace Json

mutual

/-- The value of a node all of which has one. -/
def ofNode? : Node → Option Json
  | .null => some .null
  | .bool b => some (.bool b)
  | .number n => n.map .number
  | .string s => s.map .string
  | .array items => (ofItems? items).map .array
  | .object members => (ofMembers? [] members).map .object

def ofItems? : List Node → Option (List Json)
  | [] => some []
  | item :: rest => do
    let value ← ofNode? item
    let values ← ofItems? rest
    pure (value :: values)

/-- Adds the members of an object, in the order in which they stand, to those before them. -/
def ofMembers? (before : List (String × Json)) :
    List (Option String × Node) → Option (List (String × Json))
  | [] => some before
  | (key, item) :: rest => do
    let key ← key
    let value ← ofNode? item
    ofMembers? (TextMap.insertEntry key value before) rest

end

def parse? (s : String) : Option Json := do
  let node ← Node.read? s
  if node.depth ≤ Node.depthLimit then ofNode? node else none

def ofMembers (members : List (String × Json)) : Json :=
  .object (TextMap.ofList members).entries

def natural (n : Nat) : Json :=
  .number (.integer n)

def optional {α : Type} (f : α → Json) : Option α → Json
  | none => .null
  | some a => f a

/-- One of the sixteen hexadecimal digits. -/
def hexChar (n : Nat) : Char :=
  Nat.digitChar n

/-- A character within a string: quotes, backslashes and controls are escaped. -/
def charChars (c : Char) : List Char :=
  match c with
  | '"' => ['\\', '"']
  | '\\' => ['\\', '\\']
  | '\x08' => ['\\', 'b']
  | '\x0c' => ['\\', 'f']
  | '\n' => ['\\', 'n']
  | '\r' => ['\\', 'r']
  | '\t' => ['\\', 't']
  | c =>
    if c.toNat < 0x20 then ['\\', 'u', '0', '0', hexChar (c.toNat / 16), hexChar (c.toNat % 16)]
    else [c]

def stringChars (s : String) : List Char :=
  '"' :: s.toList.flatMap charChars ++ ['"']

mutual

def chars : Json → List Char
  | .null => ['n', 'u', 'l', 'l']
  | .bool true => ['t', 'r', 'u', 'e']
  | .bool false => ['f', 'a', 'l', 's', 'e']
  | .number n => n.chars
  | .string s => stringChars s
  | .array [] => ['[', ']']
  | .array (item :: rest) => '[' :: chars item ++ itemsChars rest
  | .object [] => ['\x7b', '\x7d']
  | .object (m :: rest) => '\x7b' :: memberChars m ++ membersChars rest

def memberChars : String × Json → List Char
  | (key, value) => stringChars key ++ ':' :: chars value

/-- The items that follow the first, and the closing bracket. -/
def itemsChars : List Json → List Char
  | [] => [']']
  | item :: rest => ',' :: chars item ++ itemsChars rest

/-- The members that follow the first, and the closing brace. -/
def membersChars : List (String × Json) → List Char
  | [] => ['\x7d']
  | m :: rest => ',' :: memberChars m ++ membersChars rest

end

def text (j : Json) : String :=
  String.ofList j.chars

end Json

end BinlogCursor
