/-
Signals that ask for a snapshot of some collections, and the requests that
blocking ones make. The collections are patterns for whole names; conditions
say which rows of a collection are wanted.
-/
import BinlogCursor.Json.Decoder
import BinlogCursor.Json.Node.Reader
import BinlogCursor.Json.Value
import BinlogCursor.Pattern.Engine
import BinlogCursor.TextMap

namespace BinlogCursor.Snapshot

open Pattern (Engine compileWhole)

/-- Whether streaming stops while the snapshot is taken. -/
inductive Kind
  | blocking
  | incremental
deriving DecidableEq

namespace Kind

def text : Kind → String
  | .blocking => "blocking"
  | .incremental => "incremental"

def ofNode? : Json.Decoder Kind := fun n => do
  match ← Json.Decoder.choice n with
  | "blocking" => some .blocking
  | "incremental" => some .incremental
  | _ => none

end Kind

/-- The rows that are wanted of a collection. -/
structure Condition where
  collection : String
  filter : String
deriving DecidableEq

namespace Condition

def ofNode? : Json.Decoder Condition := fun n => do
  let f ← Json.Fields.decode ["data-collection", "filter"] n
  let collection ← f.required "data-collection" Json.Decoder.string
  let filter ← f.required "filter" Json.Decoder.string
  pure ⟨collection, filter⟩

def toJson (c : Condition) : Json :=
  .ofMembers [("data-collection", .string c.collection), ("filter", .string c.filter)]

end Condition

structure Signal where
  kind : Kind
  collections : List String
  conditions : List Condition
deriving DecidableEq

namespace Signal

/-- A signal must name its collections; without a kind it is incremental. -/
def ofNode? : Json.Decoder Signal := fun n => do
  let f ← Json.Fields.decode ["type", "data-collections", "additional-conditions"] n
  let kind ← f.withDefault "type" Kind.ofNode? .incremental
  let collections ← f.required "data-collections" (Json.Decoder.list Json.Decoder.string)
  let conditions ← f.withDefault "additional-conditions" (Json.Decoder.list Condition.ofNode?) []
  pure ⟨kind, collections, conditions⟩

def toJson (s : Signal) : Json :=
  .ofMembers
    [("type", .string s.kind.text), ("data-collections", .array (s.collections.map .string)),
      ("additional-conditions", .array (s.conditions.map Condition.toJson))]

end Signal

/-- A blocking snapshot that can be taken. -/
structure Request [Engine] where
  patterns : List Engine.Compiled
  collections : List String
  conditions : TextMap String

namespace Request

/-- The collections that a signal names, blanks around them and blank names left out. -/
def namedCollections (s : Signal) : List String :=
  ((s.collections.map fun c => Text.trim c.toList).filter (!·.isEmpty)).map String.ofList

def ofSignal [Engine] (s : Signal) : Outcome Request :=
  if s.kind ≠ .blocking then .error (.signal .notBlocking)
  else
    let collections := namedCollections s
    if collections.isEmpty then .error (.signal .noCollections)
    else do
      let patterns ← collections.mapM fun c => compileWhole c.toList
      let conditions := TextMap.ofList (s.conditions.map fun c => (c.collection, c.filter))
      pure { patterns, collections, conditions }

def parse [Engine] (payload : String) : Outcome Request :=
  match (Json.Node.read? payload).bind Signal.ofNode? with
  | some s => ofSignal s
  | none => .error .json

def isWanted [Engine] (r : Request) (collection : String) : Bool :=
  r.patterns.any (Engine.isMatch · collection)

def condition? [Engine] (r : Request) (collection : String) : Option String :=
  r.conditions.get? collection

end Request

end BinlogCursor.Snapshot
