import Mathlib.Data.Finmap
import ScreenSight.Proofs.Spatial.Index

/-!
# The spatial index as a map of boxes

Whatever is recorded, removed, cleared or rebuilt in whatever order, the index
is a finite map from ids to the boxes that they were last recorded under.  If
its buckets can be counted in a word, they are determined by that map, and so
are all of its answers.  In a larger area buckets are missing, and others stand
for several places.
-/

namespace ScreenSight

/-- A finite map from ids to boxes. -/
abbrev BoxMap := Finmap fun _ : String => Box

namespace BoxMap

/-- Record a box under an id, unless the area has no cells. -/
def record (layout : BucketLayout) (map : BoxMap) (id : String) (box : Box) : BoxMap :=
  if layout.width = 0 ∨ layout.height = 0 then map else map.insert id box

/-- Record a component under its id, if it has a box. -/
def recordComponent (layout : BucketLayout) (map : BoxMap) (component : Component) :
    BoxMap :=
  match component.effectiveBox with
  | some box => map.record layout component.id box
  | none => map

end BoxMap

namespace SpatialIndex

/-- A call that changes an index. -/
inductive Call where
  | insert (id : String) (box : Box)
  | add (component : Component)
  | remove (id : String)
  | clear
  | rebuild (components : List Component)

namespace Call

/-- What a call does to an index. -/
def perform (index : SpatialIndex String) : Call → SpatialIndex String
  | insert id box => index.insert id box
  | add component => index.insertComponent component
  | remove id => index.erase id
  | clear => index.clear
  | rebuild components => index.rebuild components

/-- What a call does to a map of boxes. -/
def record (layout : BucketLayout) (map : BoxMap) : Call → BoxMap
  | insert id box => map.record layout id box
  | add component => map.recordComponent layout component
  | remove id => map.erase id
  | clear => ∅
  | rebuild components => components.foldl (BoxMap.recordComponent layout) ∅

end Call

/-- The index after some calls on an empty one. -/
def performAll (layout : BucketLayout) (calls : List Call) : SpatialIndex String :=
  calls.foldl Call.perform (empty layout)

/-- The map after some calls on an empty one. -/
def recordAll (layout : BucketLayout) (calls : List Call) : BoxMap :=
  calls.foldl (Call.record layout) ∅

/-- An index stands for a map of boxes over an area. -/
structure Refines (layout : BucketLayout) (index : SpatialIndex String) (map : BoxMap) :
    Prop where
  layout_eq : index.layout = layout
  consistent : layout.Exact → index.Consistent
  box?_eq : ∀ id, index.box? id = map.lookup id
  empty_of_cellless : layout.width = 0 ∨ layout.height = 0 → map = ∅

namespace Refines

variable {layout : BucketLayout} {index : SpatialIndex String} {map : BoxMap}

theorem empty : Refines layout (SpatialIndex.empty layout) ∅ where
  layout_eq := rfl
  consistent := consistent_empty
  box?_eq := fun _ => rfl
  empty_of_cellless := fun _ => rfl

theorem erase (refines : Refines layout index map) (id : String) :
    Refines layout (index.erase id) (map.erase id) where
  layout_eq := (index.layout_erase id).trans refines.layout_eq
  consistent := fun exact => (refines.consistent exact).erase id
  box?_eq := by
    intro other
    rw [box?_erase, refines.box?_eq]
    by_cases same : other = id
    · rw [if_pos same, same, Finmap.lookup_erase]
    · rw [if_neg same, Finmap.lookup_erase_ne same]
  empty_of_cellless := by
    intro cellless
    rw [refines.empty_of_cellless cellless]
    apply Finmap.ext_lookup
    intro other
    by_cases same : other = id
    · rw [same, Finmap.lookup_erase, Finmap.lookup_empty]
    · rw [Finmap.lookup_erase_ne same]

theorem insert (refines : Refines layout index map) (id : String) (box : Box) :
    Refines layout (index.insert id box) (map.record layout id box) := by
  unfold BoxMap.record
  by_cases cellless : layout.width = 0 ∨ layout.height = 0
  · -- nothing is recorded, and nothing was there to be removed
    have erased := refines.erase id
    have emptied := erased.empty_of_cellless cellless
    rw [if_pos cellless, refines.empty_of_cellless cellless, ← emptied,
      insert_of_cellless (refines.layout_eq.symm ▸ cellless)]
    exact erased
  · rw [if_neg cellless]
    have celled : 0 < index.layout.width ∧ 0 < index.layout.height := by
      rw [refines.layout_eq]
      omega
    refine ⟨(index.layout_insert id box).trans refines.layout_eq,
      fun exact => (refines.consistent exact).insert id box, ?_, fun none => (cellless none).elim⟩
    intro other
    rw [box?_insert celled, refines.box?_eq]
    by_cases same : other = id
    · rw [if_pos same, same, Finmap.lookup_insert]
    · rw [if_neg same, Finmap.lookup_insert_of_ne _ same]

theorem insertComponent (refines : Refines layout index map) (component : Component) :
    Refines layout (index.insertComponent component)
      (map.recordComponent layout component) := by
  unfold SpatialIndex.insertComponent BoxMap.recordComponent
  cases component.effectiveBox with
  | none => exact refines
  | some box => exact refines.insert component.id box

theorem clear (refines : Refines layout index map) :
    Refines layout index.clear ∅ := by
  rw [SpatialIndex.clear, refines.layout_eq]
  exact empty

theorem foldl_insertComponent (refines : Refines layout index map)
    (components : List Component) :
    Refines layout (components.foldl SpatialIndex.insertComponent index)
      (components.foldl (BoxMap.recordComponent layout) map) := by
  induction components generalizing index map with
  | nil => exact refines
  | cons component rest induction => exact induction (refines.insertComponent component)

theorem perform (refines : Refines layout index map) (call : Call) :
    Refines layout (call.perform index) (call.record layout map) := by
  cases call with
  | insert id box => exact refines.insert id box
  | add component => exact refines.insertComponent component
  | remove id => exact refines.erase id
  | clear => exact refines.clear
  | rebuild components => exact refines.clear.foldl_insertComponent components

theorem foldl_perform (refines : Refines layout index map) (calls : List Call) :
    Refines layout (calls.foldl Call.perform index)
      (calls.foldl (Call.record layout) map) := by
  induction calls generalizing index map with
  | nil => exact refines
  | cons call rest induction => exact induction (refines.perform call)

theorem size_eq (refines : Refines layout index map) : index.size = map.keys.card := by
  have keys : map.keys = index.boxes.keys.toFinset := by
    ext id
    rw [Finmap.mem_keys, List.mem_toFinset, ← Finmap.lookup_isSome, ← refines.box?_eq,
      ← SortedMap.get?_isSome_iff]
    rfl
  rw [keys, List.toFinset_card_of_nodup index.boxes.keys_nodup, SortedMap.length_keys]
  rfl

end Refines

/-- An area with too many buckets, of which eight are left. -/
def wideLayout : BucketLayout :=
  ⟨0x4000000000000001, 8, 1, by decide⟩

end SpatialIndex

end ScreenSight
