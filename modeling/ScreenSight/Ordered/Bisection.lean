/-!
# Binary search

A number is looked for in an increasing array by halving the part in which it may stand.
-/

namespace ScreenSight

/-- What comes of a search. -/
inductive Landing where
  /-- The number stands at a place. -/
  | found (place : Nat)
  /-- The number does not occur; it would have to be put in at a place. -/
  | missing (place : Nat)
  deriving DecidableEq

/-- Look for a number from one place on and in front of another. -/
def bisectBetween (values : Array Nat) (sought low high : Nat) (within : high ≤ values.size) :
    Landing :=
  if _open : low < high then
    let middle := low + (high - low) / 2
    have _inside : middle < values.size := by omega
    if values[middle] = sought then .found middle
    else if values[middle] < sought then bisectBetween values sought (middle + 1) high within
    else bisectBetween values sought low middle (by omega)
  else .missing low
termination_by high - low

/-- Look for a number in an array. -/
def bisect (values : Array Nat) (sought : Nat) : Landing :=
  bisectBetween values sought 0 values.size (Nat.le_refl _)

namespace Landing

/-- What a search says is true of the array. -/
def Describes (values : Array Nat) (sought : Nat) : Landing → Prop
  | found place => values[place]? = some sought
  | missing place => place ≤ values.size ∧ ∀ other value, values[other]? = some value →
      (other < place → value < sought) ∧ (place ≤ other → sought < value)

end Landing

theorem getElem?_lt_getElem? {values : Array Nat}
    (increasing : values.toList.Pairwise (· < ·)) {place other value later : Nat}
    (here : values[place]? = some value) (there : values[other]? = some later)
    (order : place < other) : value < later := by
  rw [← Array.getElem?_toList] at here there
  obtain ⟨placed, rfl⟩ := List.getElem?_eq_some_iff.mp here
  obtain ⟨placedLater, rfl⟩ := List.getElem?_eq_some_iff.mp there
  exact List.pairwise_iff_getElem.mp increasing place other placed placedLater order

theorem getElem?_le_getElem? {values : Array Nat}
    (increasing : values.toList.Pairwise (· < ·)) {place other value later : Nat}
    (here : values[place]? = some value) (there : values[other]? = some later)
    (order : place ≤ other) : value ≤ later := by
  rcases Nat.lt_or_eq_of_le order with before | rfl
  · exact Nat.le_of_lt (getElem?_lt_getElem? increasing here there before)
  · exact Nat.le_of_eq (Option.some.inj (here.symm.trans there))

/-- A search keeps the places in front of its part below the number, and those behind above it. -/
theorem describes_bisectBetween {values : Array Nat} {sought low high : Nat}
    (increasing : values.toList.Pairwise (· < ·)) (within : high ≤ values.size)
    (ordered : low ≤ high)
    (below : ∀ other value, values[other]? = some value → other < low → value < sought)
    (above : ∀ other value, values[other]? = some value → high ≤ other → sought < value) :
    (bisectBetween values sought low high within).Describes values sought := by
  fun_induction bisectBetween values sought low high within with
  | case1 low high within between middle inside same =>
      exact Array.getElem?_eq_some_iff.mpr ⟨inside, same⟩
  | case2 low high within between middle inside different smaller induction =>
      refine induction (by omega) ?_ above
      intro other value placed order
      have notAbove := getElem?_le_getElem? increasing placed
        (Array.getElem?_eq_getElem inside) (Nat.le_of_lt_succ order)
      exact Nat.lt_of_le_of_lt notAbove smaller
  | case3 low high within between middle inside different larger induction =>
      refine induction (by omega) below ?_
      intro other value placed order
      have notBelow := getElem?_le_getElem? increasing
        (Array.getElem?_eq_getElem inside) placed order
      omega
  | case4 low high within closed =>
      refine ⟨by omega, fun other value placed => ⟨below other value placed, ?_⟩⟩
      intro order
      exact above other value placed (by omega)

/-- A search of an increasing array tells where the number stands or belongs. -/
theorem describes_bisect {values : Array Nat} (increasing : values.toList.Pairwise (· < ·))
    (sought : Nat) : (bisect values sought).Describes values sought := by
  refine describes_bisectBetween increasing (Nat.le_refl _) (Nat.zero_le _) ?_ ?_
  · intro other value _ before
    exact absurd before (Nat.not_lt_zero other)
  · intro other value placed behind
    have inside := (Array.getElem?_eq_some_iff.mp placed).1
    omega

end ScreenSight
