/-
Settings of a cursor, read from variables: the name and number of the server,
the servers to keep or to leave out, and how often checkpoints are written.
-/
import BinlogCursor.Comparison

namespace BinlogCursor

structure Settings where
  serverName : String
  serverId : UInt64
  /-- Patterns of the servers to keep. -/
  includes : List String
  /-- Patterns of the servers to leave out. -/
  excludes : List String
  /-- The time between two checkpoints, in milliseconds. -/
  interval : UInt64
deriving DecidableEq

namespace Settings

def nameVariable : String := "CDC_SERVER_NAME"

def idVariable : String := "CDC_SERVER_ID"

def includesVariable : String := "CDC_GTID_INCLUDES"

def excludesVariable : String := "CDC_GTID_EXCLUDES"

def intervalVariable : String := "CDC_CHECKPOINT_INTERVAL_MS"

def default : Settings where
  serverName := "server"
  serverId := 1
  includes := []
  excludes := []
  interval := 1000

def number (name : String) (default : UInt64) : Option String → Outcome UInt64
  | none => .ok default
  | some raw =>
    match (Text.unsigned? (Text.trim raw.toList)).bind Text.word64? with
    | some n => .ok n
    | none => .error (.settings (.notNumber name raw))

/-- The entries of a list separated by commas; blanks around them and blank entries do not count. -/
def entries : Option String → List String
  | none => []
  | some raw =>
    (((Text.split ',' raw.toList).map Text.trim).filter (!·.isEmpty)).map String.ofList

/-- Servers may be listed for one purpose only, and checkpoints need a pause between them. -/
def check (s : Settings) : Outcome Unit :=
  if !s.includes.isEmpty && !s.excludes.isEmpty then .error (.settings .bothServerLists)
  else if s.interval = 0 then .error (.settings .zeroInterval)
  else .ok ()

def ofVariables (lookup : String → Option String) : Outcome Settings := do
  let serverId ← number idVariable default.serverId (lookup idVariable)
  let interval ←
    number intervalVariable default.interval (lookup intervalVariable)
  let settings : Settings :=
    { serverName := (lookup nameVariable).getD default.serverName
      serverId
      includes := entries (lookup includesVariable)
      excludes := entries (lookup excludesVariable)
      interval }
  settings.check
  pure settings

def filter [Pattern.Engine] (s : Settings) : Outcome (Option ServerFilter) := do
  s.check
  if !s.includes.isEmpty then (ServerFilter.keeping s.includes).map some
  else if !s.excludes.isEmpty then (ServerFilter.leavingOut s.excludes).map some
  else pure none

def comparison [Pattern.Engine] (s : Settings) : Outcome Comparison := do
  let filter ← s.filter
  pure ⟨filter⟩

end Settings

end BinlogCursor
