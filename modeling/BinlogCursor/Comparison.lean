/-
The order of two positions. Positions with GTID sets are ordered by inclusion of
the sets, after a filter has chosen the servers that count; a position without a
set comes before one with a set; and two without are ordered by their place in
the log, or by time when they come from different servers. Of two positions that
would be the same, the one taken during a snapshot comes first.
-/
import BinlogCursor.Gtid.ServerFilter
import BinlogCursor.Position.Checkpoint

namespace BinlogCursor

/-- How one position stands to another. -/
inductive Standing
  | before
  | same
  | after
  | incomparable
deriving DecidableEq

namespace Standing

def ofOrdering : Ordering → Standing
  | .lt => .before
  | .eq => .same
  | .gt => .after

def reverse : Standing → Standing
  | .before => .after
  | .same => .same
  | .after => .before
  | .incomparable => .incomparable

def isLE : Standing → Bool
  | .before => true
  | .same => true
  | _ => false

def text : Standing → String
  | .before => "before"
  | .same => "same"
  | .after => "after"
  | .incomparable => "incomparable"

end Standing

namespace Position

/-- Of two positions that are the same but for a snapshot, the one within it comes first. -/
def snapshotOrder (a b : Position) : Standing :=
  match a.duringSnapshot, b.duringSnapshot with
  | true, false => .before
  | false, true => .after
  | _, _ => .same

/-- The order found so far, with the snapshot to decide between equals. -/
def orTie (a b : Position) : Ordering → Standing
  | .eq => snapshotOrder a b
  | o => .ofOrdering o

/-- Both positions name their server, and not the same one. -/
def onDifferentServers (a b : Position) : Bool :=
  match a.serverId, b.serverId with
  | some s, some t => s != t
  | _, _ => false

/-- The order by the log: places, then events done, then rows done. -/
def orderByPlace (a b : Position) : Outcome Ordering := do
  let o ← a.place.order b.place
  pure ((o.then (compare a.eventsDone b.eventsDone)).then (compare a.row b.row))

/-- The order of two positions without GTID sets. -/
def orderWithoutGtids (a b : Position) : Outcome Standing :=
  if a.onDifferentServers b then
    .ok (a.orTie b (compare (a.seconds.getD 0) (b.seconds.getD 0)))
  else do
    let o ← a.orderByPlace b
    pure (a.orTie b o)

end Position

/-- Compares positions; only the servers that its filter keeps count. -/
structure Comparison where
  filter : Option ServerFilter

namespace Comparison

def unfiltered : Comparison :=
  ⟨none⟩

def restrict (c : Comparison) (g : GtidSet) : GtidSet :=
  match c.filter with
  | some f => f.apply g
  | none => g

def compare (c : Comparison) (a b : Position) : Outcome Standing :=
  match a.gtids.map c.restrict, b.gtids.map c.restrict with
  | some g, some h =>
    match g.order? h with
    | some o => .ok (a.orTie b o)
    | none => .ok .incomparable
  | none, some _ => .ok .before
  | some _, none => .ok .after
  | none, none => a.orderWithoutGtids b

/-- The first position is known to come before the second, or to be the same. -/
def isLE (c : Comparison) (a b : Position) : Outcome Bool :=
  (c.compare a b).map Standing.isLE

def isLT (c : Comparison) (a b : Position) : Outcome Bool :=
  (c.compare a b).map (· == .before)

def isGT (c : Comparison) (a b : Position) : Outcome Bool :=
  (c.compare a b).map (· == .after)

def compareStored (c : Comparison) (a b : Checkpoint) : Outcome Standing := do
  let p ← Position.ofCheckpoint a
  let q ← Position.ofCheckpoint b
  c.compare p q

/-- One record more: it is the latest so far if it is at or before the target. -/
def recoveryStep (c : Comparison) (target : Position) (latest : Option (Nat × Position))
    (record : Nat × Position) : Outcome (Option (Nat × Position)) := do
  let found ← c.isLE record.2 target
  pure (if found then some record else latest)

/-- The last record at or before a target, with its place in the list. Every record must be
comparable with the target. -/
def recoveryPoint (c : Comparison) (records : List Position) (target : Position) :
    Outcome (Option (Nat × Position)) :=
  ((List.range records.length).zip records).foldlM (c.recoveryStep target) none

end Comparison

end BinlogCursor
