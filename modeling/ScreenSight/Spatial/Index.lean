import ScreenSight.Component.Basic
import ScreenSight.Spatial.Layout

/-!
# The spatial index

The index records boxes under keys.  Each bucket of the area knows the keys whose boxes reach into
it, so a query looks only at the buckets that it touches.  A query for a point is exact; a query for
a region finds candidates, among them every key whose box meets the region.  Both hold as long as
the number of buckets is a word; otherwise there are numbers without a bucket, which are passed over.
-/

namespace ScreenSight

/-- Boxes under keys as they were given, with the keys of each bucket. -/
structure SpatialIndex (κ : Type) [LT κ] where
  layout : BucketLayout
  buckets : Array (SortedSet κ)
  boxes : SortedMap κ Box
  size_buckets : buckets.size = layout.count

namespace SpatialIndex

def modifyBuckets {α : Type} (change : α → α) (indices : List Nat) (buckets : Array α) : Array α :=
  indices.foldl (fun buckets index => buckets.modify index change) buckets

theorem size_modifyBuckets {α : Type} (change : α → α) (indices : List Nat) (buckets : Array α) :
    (modifyBuckets change indices buckets).size = buckets.size := by
  induction indices generalizing buckets with
  | nil => rfl
  | cons index rest induction =>
      rw [modifyBuckets, List.foldl_cons]
      exact (induction _).trans Array.size_modify

section

variable {κ : Type} [LT κ]

/-- The index without keys. -/
def empty (layout : BucketLayout) : SpatialIndex κ :=
  ⟨layout, Array.replicate layout.count SortedSet.empty, SortedMap.empty, Array.size_replicate⟩

/-- The index without any of its keys. -/
def clear (index : SpatialIndex κ) : SpatialIndex κ :=
  empty index.layout

/-- The number of keys. -/
def size (index : SpatialIndex κ) : Nat :=
  index.boxes.size

/-- Whether there are no keys. -/
def isEmpty (index : SpatialIndex κ) : Bool :=
  index.boxes.isEmpty

/-- The keys of a bucket; a bucket that is not there has none. -/
def keysIn (index : SpatialIndex κ) (bucket : Nat) : SortedSet κ :=
  index.buckets.getD bucket SortedSet.empty

/-- The numbers of the buckets that a box reaches into. -/
def bucketsOf (index : SpatialIndex κ) (box : Box) : List Nat :=
  match index.layout.range? box with
  | some range => index.layout.indices range
  | none => []

variable [DecidableEq κ]

def box? (index : SpatialIndex κ) (key : κ) : Option Box :=
  index.boxes.get? key

/-- The index without a key, and whether it had it. -/
def remove (index : SpatialIndex κ) (key : κ) : SpatialIndex κ × Bool :=
  match index.box? key with
  | none => (index, false)
  | some box =>
      ({ layout := index.layout
         buckets := modifyBuckets (fun keys => keys.erase key) (index.bucketsOf box) index.buckets
         boxes := index.boxes.erase key
         size_buckets := (size_modifyBuckets _ _ _).trans index.size_buckets }, true)

def erase (index : SpatialIndex κ) (key : κ) : SpatialIndex κ :=
  (index.remove key).1

/-- The keys whose boxes contain a point; a point outside the area is in no box. -/
def atPoint (index : SpatialIndex κ) (point : Point) : SortedSet κ :=
  let layout := index.layout
  match Coordinate.toNat? point.x, Coordinate.toNat? point.y with
  | some column, some row =>
      if column < layout.width ∧ row < layout.height then
        (index.keysIn (layout.indexAt point)).filter fun key =>
          match index.box? key with
          | some box => box.containsPoint point
          | none => false
      else SortedSet.empty
  | _, _ => SortedSet.empty

end

section

variable {κ : Type} [LT κ] [DecidableLT κ] [DecidableEq κ]
variable [Trans (α := κ) (· < ·) (· < ·) (· < ·)]

/-- Record a box under a key, in place of any earlier one.  An area without cells records
nothing. -/
def insert (index : SpatialIndex κ) (key : κ) (box : Box) : SpatialIndex κ :=
  let others := index.erase key
  match others.layout.range? box with
  | none => others
  | some range =>
      { layout := others.layout
        buckets :=
          modifyBuckets (fun keys => keys.insert key) (others.layout.indices range) others.buckets
        boxes := others.boxes.insert key box
        size_buckets := (size_modifyBuckets _ _ _).trans others.size_buckets }

/-- The keys of all buckets that the box between two corners reaches into. -/
def inRegion (index : SpatialIndex κ) (x1 y1 x2 y2 : Coordinate) : SortedSet κ :=
  (index.bucketsOf (Box.ofCorners x1 y1 x2 y2)).foldl
    (fun found bucket => (index.keysIn bucket).union found) SortedSet.empty

end

/-- Record a component under its id, if it has a box. -/
def insertComponent (index : SpatialIndex String) (component : Component) : SpatialIndex String :=
  match component.effectiveBox with
  | some box => index.insert component.id box
  | none => index

/-- Record some components and nothing else. -/
def rebuild (index : SpatialIndex String) (components : List Component) : SpatialIndex String :=
  components.foldl insertComponent index.clear

end SpatialIndex

end ScreenSight
