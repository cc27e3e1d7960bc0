import ScreenSight.Ordered.Map

/-!
# Ids of detected components

An id consists of the kind of a component and a number that counts the components of that kind.
-/

namespace ScreenSight

/-- How many ids each kind has got. -/
structure IdCounters where
  counts : SortedMap String Nat := SortedMap.empty
  deriving Inhabited

namespace IdCounters

/-- The counters before the first id. -/
def zero : IdCounters := {}

/-- The number of ids of a kind. -/
def count (counters : IdCounters) (kind : String) : Nat :=
  (counters.counts.get? kind).getD 0

def idOf (kind : String) (number : Nat) : String :=
  s!"{kind}_{number}"

def next (counters : IdCounters) (kind : String) : String × IdCounters :=
  let number := counters.count kind + 1
  (idOf kind number, ⟨counters.counts.insert kind number⟩)

end IdCounters

end ScreenSight
