/-
A memory of bounded size for what has been built. Each key has one slot, found by
its hash, and what is put into a slot takes the place of what was there; so
something may be forgotten, but what is found is what was put in.
-/

namespace BinlogCursor.Pattern

abbrev Memo.Key := List Nat

/-- The slots, each with the key that is in it and the number that goes with it. -/
structure Memo where
  slots : Array (Option (Memo.Key × Nat))

namespace Memo

def empty (size : Nat) : Memo :=
  ⟨.replicate size none⟩

/-- The hash of a key: each number is mixed in by an exclusive or and a multiplication with a prime,
in 64 bits. -/
def hash (key : Key) : UInt64 :=
  key.foldl (fun h n => (h ^^^ n.toUInt64) * 1099511628211) 14695981039346656037

def slot (m : Memo) (key : Key) : Nat :=
  (hash key % m.slots.size.toUInt64).toNat

/-- The number that goes with a key, if it is still there. -/
def find? (m : Memo) (key : Key) : Option Nat :=
  match m.slots[m.slot key]? with
  | some (some (key', n)) => if key = key' then some n else none
  | _ => none

def insert (m : Memo) (key : Key) (n : Nat) : Memo :=
  ⟨m.slots.setIfInBounds (m.slot key) (some (key, n))⟩

end Memo

end BinlogCursor.Pattern
