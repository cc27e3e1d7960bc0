/-!
# Tables with a fixed number of slots

A table of this kind remembers which state was made for which key.  Each key has one slot, and a new
entry takes the place of the one that was there.  So the table stays small, and now and then forgets
an entry.
-/

namespace ScreenSight.Regex

/-- States by their keys, one in each slot. -/
structure SlotTable where
  slots : Array (Option (List Nat × Nat))

namespace SlotTable

/-- The table without entries. -/
def empty (size : Nat) : SlotTable :=
  ⟨Array.replicate size none⟩

/-- The digest of a key: each part is mixed in by an exclusive or and a multiplication modulo
2 ^ 64. -/
def digest (key : List Nat) : UInt64 :=
  key.foldl (fun hash part => UInt64.mul (UInt64.xor hash (UInt64.ofNat part)) 1099511628211)
    14695981039346656037

def slot (table : SlotTable) (key : List Nat) : Nat :=
  (UInt64.mod (digest key) (UInt64.ofNat table.slots.size)).toNat

/-- The state of a key, unless it has been forgotten. -/
def find? (table : SlotTable) (key : List Nat) : Option Nat :=
  match table.slots[table.slot key]? with
  | some (some (present, state)) => if present = key then some state else none
  | _ => none

def insert (table : SlotTable) (key : List Nat) (state : Nat) : SlotTable :=
  ⟨table.slots.setIfInBounds (table.slot key) (some (key, state))⟩

end SlotTable

end ScreenSight.Regex
