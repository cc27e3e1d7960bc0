import Mathlib.Data.Finset.Card
import Mathlib.Logic.Relation
import ScreenSight.Proofs.Containment.Hierarchy
import ScreenSight.Proofs.Containment.Pairs

/-!
# Containment is a forest

Nested boxes lie strictly inside of one another, so the edges that the analysis adds
never lead back to where they began.  All nested pairs together are transitive; the
parents alone leave each component that lies in another one a single edge.
-/

namespace ScreenSight

namespace Containment

variable {components : List Component}

/-! ## Nested positions -/

/-- The component at a position lies in the one at another position. -/
def Nests (components : List Component) (outer inner : Nat) : Prop :=
  ∃ outerBox innerBox, boxAt? components outer = some outerBox ∧
    boxAt? components inner = some innerBox ∧
    outerBox.strictlyContains innerBox margin = true

instance (components : List Component) (outer inner : Nat) :
    Decidable (Nests components outer inner) :=
  decidable_of_iff
    (∃ outerBox ∈ boxAt? components outer, ∃ innerBox ∈ boxAt? components inner,
      outerBox.strictlyContains innerBox margin = true)
    (by simp [Nests])

theorem margin_pos : 0 < margin.toInt := by decide

theorem Nests.trans {outer middle inner : Nat} (first : Nests components outer middle)
    (second : Nests components middle inner) : Nests components outer inner := by
  obtain ⟨outerBox, middleBox, outerFound, middleFound, around⟩ := first
  obtain ⟨sameBox, innerBox, sameFound, innerFound, within⟩ := second
  obtain rfl := Option.some.inj (middleFound.symm.trans sameFound)
  exact ⟨outerBox, innerBox, outerFound, innerFound,
    Box.strictlyContains_trans (Int.le_of_lt margin_pos) around within⟩

theorem not_nests_self (position : Nat) : ¬Nests components position position := by
  rintro ⟨box, sameBox, found, sameFound, nested⟩
  obtain rfl := Option.some.inj (found.symm.trans sameFound)
  exact Box.not_strictlyContains_self margin_pos nested

theorem lt_of_boxAt? {position : Nat} {box : Box}
    (found : boxAt? components position = some box) : position < components.length := by
  obtain ⟨component, present, _⟩ := Option.bind_eq_some_iff.mp found
  exact (List.getElem?_eq_some_iff.mp present).1

theorem Nests.lt {outer inner : Nat} (nested : Nests components outer inner) :
    outer < components.length ∧ inner < components.length := by
  obtain ⟨_, _, outerFound, innerFound, _⟩ := nested
  exact ⟨lt_of_boxAt? outerFound, lt_of_boxAt? innerFound⟩

/-- The search finds the nested positions. -/
theorem mem_searchPairs_iff {outer inner : Nat} :
    (outer, inner) ∈ searchPairs components ↔ Nests components outer inner := by
  simp only [searchPairs, searchAround, byArea, List.mem_flatMap, List.mem_mergeSort,
    List.mem_map, List.mem_filter, Prod.exists, Prod.mk.injEq, Bool.and_eq_true, bne_iff_ne,
    mem_boxedPositions_iff]
  constructor
  · rintro ⟨_, outerBox, outerFound, _, innerBox, ⟨innerFound, _, nested⟩, rfl, rfl⟩
    exact ⟨outerBox, innerBox, outerFound, innerFound, nested⟩
  · intro nests
    have differ : inner ≠ outer := by
      rintro rfl
      exact not_nests_self inner nests
    obtain ⟨outerBox, innerBox, outerFound, innerFound, nested⟩ := nests
    exact ⟨outer, outerBox, outerFound, inner, innerBox, ⟨innerFound, differ, nested⟩, rfl, rfl⟩

/-- Different components have different ids. -/
theorem idAt_injective (distinct : (components.map Component.id).Nodup) {position other : Nat}
    (inside : position < components.length) (otherInside : other < components.length)
    (same : idAt components position = idAt components other) : position = other := by
  have ids {place : Nat} (within : place < components.length) :
      (components.map Component.id)[place]? = some (idAt components place) := by
    simp [idAt, within]
  apply (List.getElem?_inj (by simpa using inside) distinct).mp
  rw [ids inside, ids otherInside, same]

/-! ## Parents -/

/-- The tightest container is one of them. -/
theorem exists_tightest? (components : List Component) {containers : List Nat}
    (any : containers ≠ []) :
    ∃ position ∈ containers, tightest? components containers = some position := by
  obtain ⟨first, rest, rfl⟩ := List.exists_cons_of_ne_nil any
  rw [tightest?, List.foldl_cons]
  refine List.foldlRecOn
    (motive := fun found => ∃ position ∈ first :: rest, found = some position)
    _ _ ⟨first, List.mem_cons_self, rfl⟩ ?_
  rintro _ ⟨current, listed, rfl⟩ position member
  simp only
  split
  · exact ⟨position, List.mem_cons_of_mem first member, rfl⟩
  · exact ⟨current, listed, rfl⟩

theorem mem_containersOf {found : List (Nat × Nat)} {outer inner : Nat} :
    outer ∈ containersOf found inner ↔ (outer, inner) ∈ found := by
  simp [containersOf]

end Containment

namespace ContainmentAnalyzer

open Containment

variable {analyzer : ContainmentAnalyzer} {components : List Component}

theorem mem_pairs_iff {outer inner : Nat} :
    (outer, inner) ∈ analyzer.pairs ⟨components, []⟩ ↔ Nests components outer inner := by
  rw [pairs, pairs_eq_searchPairs, mem_searchPairs_iff]

theorem parentsOf_eq {inner : Nat} (inside : inner < components.length) :
    (analyzer.parentsOf components)[inner]?.join =
      tightest? components (containersOf (analyzer.pairs ⟨components, []⟩) inner) := by
  simp [parentsOf, parents, inside]

theorem nests_of_mem_keptOf {outer inner : Nat}
    (kept : (outer, inner) ∈ analyzer.keptOf components) : Nests components outer inner := by
  rw [keptOf] at kept
  split at kept
  · exact mem_pairs_iff.mp (List.mem_of_mem_filter kept)
  · exact mem_pairs_iff.mp kept

theorem mem_keptOf_of_full (full : analyzer.directOnly = false) {outer inner : Nat} :
    (outer, inner) ∈ analyzer.keptOf components ↔ Nests components outer inner := by
  simp [keptOf, full, mem_pairs_iff]

theorem mem_keptOf_of_direct (direct : analyzer.directOnly = true) {outer inner : Nat} :
    (outer, inner) ∈ analyzer.keptOf components ↔
      Nests components outer inner ∧
        (analyzer.parentsOf components)[inner]?.join = some outer := by
  simp [keptOf, direct, mem_pairs_iff]

/-- What lies in anything has a parent that it lies in. -/
theorem exists_mem_keptOf (direct : analyzer.directOnly = true) {outer inner : Nat}
    (nested : Nests components outer inner) :
    ∃ parent, (parent, inner) ∈ analyzer.keptOf components := by
  have container : outer ∈ containersOf (analyzer.pairs ⟨components, []⟩) inner :=
    mem_containersOf.mpr (mem_pairs_iff.mpr nested)
  obtain ⟨parent, listed, tightest⟩ :=
    exists_tightest? components (List.ne_nil_of_mem container)
  refine ⟨parent, (mem_keptOf_of_direct direct).mpr ⟨?_, ?_⟩⟩
  · exact mem_pairs_iff.mp (mem_containersOf.mp listed)
  · rw [parentsOf_eq nested.lt.2, tightest]

end ContainmentAnalyzer

/-! ## Edges -/

/-- A model relates two components by containment. -/
def Model.Contains (model : Model) (outer inner : String) : Prop :=
  ⟨outer, inner, Relationship.containsKind⟩ ∈ model.relationships

namespace Containment

/-- Two components by their ids, one in the other. -/
def NestsById (components : List Component) (outer inner : String) : Prop :=
  ∃ outerPlace innerPlace, Nests components outerPlace innerPlace ∧
    outer = idAt components outerPlace ∧ inner = idAt components innerPlace

theorem NestsById.trans {components : List Component}
    (distinct : (components.map Component.id).Nodup) {outer middle inner : String}
    (first : NestsById components outer middle) (second : NestsById components middle inner) :
    NestsById components outer inner := by
  obtain ⟨outerPlace, middlePlace, around, rfl, rfl⟩ := first
  obtain ⟨samePlace, innerPlace, within, same, rfl⟩ := second
  obtain rfl := idAt_injective distinct around.lt.2 within.lt.1 same
  exact ⟨outerPlace, innerPlace, around.trans within, rfl, rfl⟩

theorem not_nestsById_self {components : List Component}
    (distinct : (components.map Component.id).Nodup) (id : String) :
    ¬NestsById components id id := by
  rintro ⟨outerPlace, innerPlace, nested, rfl, same⟩
  obtain rfl := idAt_injective distinct nested.lt.1 nested.lt.2 same
  exact not_nests_self _ nested

/-- Along edges that lead inwards components lie in one another. -/
theorem nestsById_of_transGen {components : List Component}
    (distinct : (components.map Component.id).Nodup) {edges : String → String → Prop}
    (inwards : ∀ {outer inner}, edges outer inner → NestsById components outer inner)
    {outer inner : String} (path : Relation.TransGen edges outer inner) :
    NestsById components outer inner := by
  induction path with
  | single edge => exact inwards edge
  | tail _ edge induction => exact induction.trans distinct (inwards edge)

end Containment

namespace ContainmentAnalyzer

open Containment

section

variable {analyzer : ContainmentAnalyzer} {model : Model}
variable (distinct : (model.components.map Component.id).Nodup)
variable (unrelated : model.relationships = [])

include distinct unrelated

theorem contains_analyze_iff {outer inner : String} :
    (analyzer.analyze model).Contains outer inner ↔
      ∃ outerPlace innerPlace, (outerPlace, innerPlace) ∈ analyzer.keptOf model.components ∧
        outer = idAt model.components outerPlace ∧ inner = idAt model.components innerPlace := by
  rw [Model.Contains, analyze_eq, unrelated]
  simp only [mem_foldl_addEdge, List.not_mem_nil, false_or, mem_edgesOf, Relationship.mk.injEq,
    and_true]
  constructor
  · rintro ⟨⟨outerPlace, innerPlace, kept, _, outerId, innerId⟩, _⟩
    exact ⟨outerPlace, innerPlace, kept, outerId, innerId⟩
  · rintro ⟨outerPlace, innerPlace, kept, rfl, rfl⟩
    have nested := nests_of_mem_keptOf kept
    have differ : idAt model.components outerPlace ≠ idAt model.components innerPlace := by
      intro same
      have looped := idAt_injective distinct nested.lt.1 nested.lt.2 same
      rw [looped] at nested
      exact not_nests_self innerPlace nested
    exact ⟨⟨outerPlace, innerPlace, kept, differ, rfl, rfl⟩, differ⟩

theorem nestsById_of_contains {outer inner : String}
    (contains : (analyzer.analyze model).Contains outer inner) :
    NestsById model.components outer inner := by
  obtain ⟨outerPlace, innerPlace, kept, outerId, innerId⟩ :=
    (contains_analyze_iff distinct unrelated).mp contains
  exact ⟨outerPlace, innerPlace, nests_of_mem_keptOf kept, outerId, innerId⟩

theorem nestsById_of_path {outer inner : String}
    (path : Relation.TransGen (analyzer.analyze model).Contains outer inner) :
    NestsById model.components outer inner := by
  apply nestsById_of_transGen distinct _ path
  exact nestsById_of_contains distinct unrelated

theorem contains_full_iff (full : analyzer.directOnly = false) {outer inner : String} :
    (analyzer.analyze model).Contains outer inner ↔ NestsById model.components outer inner := by
  rw [contains_analyze_iff distinct unrelated]
  simp only [mem_keptOf_of_full full]
  rfl

section

variable (direct : analyzer.directOnly = true)

include direct

/-- Only one of the kept pairs leads to each component. -/
theorem outer_unique {outer other inner : String}
    (contains : (analyzer.analyze model).Contains outer inner)
    (otherContains : (analyzer.analyze model).Contains other inner) : outer = other := by
  obtain ⟨outerPlace, innerPlace, kept, rfl, rfl⟩ :=
    (contains_analyze_iff distinct unrelated).mp contains
  obtain ⟨otherPlace, samePlace, otherKept, rfl, same⟩ :=
    (contains_analyze_iff distinct unrelated).mp otherContains
  have inside := (nests_of_mem_keptOf kept).lt.2
  have otherInside := (nests_of_mem_keptOf otherKept).lt.2
  obtain rfl := idAt_injective distinct inside otherInside same
  have parent := ((mem_keptOf_of_direct direct).mp kept).2
  have otherParent := ((mem_keptOf_of_direct direct).mp otherKept).2
  rw [Option.some.inj (parent.symm.trans otherParent)]

theorem length_incoming_le_one (inner : String) :
    (((analyzer.analyze model).ofKind Relationship.containsKind).filter fun edge =>
      edge.target == inner).length ≤ 1 := by
  have unrepeated : (((analyzer.analyze model).ofKind Relationship.containsKind).filter
      fun edge => edge.target == inner).Nodup := by
    rw [Model.ofKind, analyze_eq, unrelated]
    exact ((nodup_foldl_addEdge List.nodup_nil _).filter _).filter _
  rw [← List.toFinset_card_of_nodup unrepeated, Finset.card_le_one]
  intro edge member other otherMember
  obtain ⟨source, target, kind⟩ := edge
  obtain ⟨otherSource, otherTarget, otherKind⟩ := other
  simp only [Model.ofKind, List.mem_toFinset, List.mem_filter, beq_iff_eq] at member otherMember
  obtain ⟨⟨added, rfl⟩, rfl⟩ := member
  obtain ⟨⟨otherAdded, rfl⟩, rfl⟩ := otherMember
  rw [outer_unique distinct unrelated direct added otherAdded]

theorem exists_contains_iff {full : ContainmentAnalyzer} (complete : full.directOnly = false)
    (inner : String) :
    (∃ outer, (analyzer.analyze model).Contains outer inner) ↔
      ∃ outer, (full.analyze model).Contains outer inner := by
  constructor
  · rintro ⟨outer, contains⟩
    have nested := nestsById_of_contains distinct unrelated contains
    exact ⟨outer, (contains_full_iff distinct unrelated complete).mpr nested⟩
  · rintro ⟨outer, contains⟩
    obtain ⟨outerPlace, innerPlace, nested, _, innerId⟩ :=
      (contains_full_iff distinct unrelated complete).mp contains
    obtain ⟨parent, kept⟩ := exists_mem_keptOf direct nested
    exact ⟨_, (contains_analyze_iff distinct unrelated).mpr
      ⟨parent, innerPlace, kept, rfl, innerId⟩⟩

end

end

/-- The edges that the analysis adds never lead back to a component.  All pairs
together are transitive; parents alone leave at most one edge to each component, and
one to each that has any among all pairs. -/
theorem analyze_forest (analyzer : ContainmentAnalyzer) (model : Model)
    (distinct : (model.components.map Component.id).Nodup)
    (unrelated : model.relationships = []) :
    (∀ id, ¬Relation.TransGen (analyzer.analyze model).Contains id id) ∧
      (analyzer.directOnly = false → ∀ outer middle inner,
        (analyzer.analyze model).Contains outer middle →
          (analyzer.analyze model).Contains middle inner →
            (analyzer.analyze model).Contains outer inner) ∧
      (analyzer.directOnly = true → ∀ inner,
        (((analyzer.analyze model).ofKind Relationship.containsKind).filter fun edge =>
            edge.target == inner).length ≤ 1 ∧
          ∀ full : ContainmentAnalyzer, full.directOnly = false →
            ((∃ outer, (analyzer.analyze model).Contains outer inner) ↔
              ∃ outer, (full.analyze model).Contains outer inner)) := by
  refine ⟨?_, ?_, ?_⟩
  · intro id looped
    exact not_nestsById_self distinct id (nestsById_of_path distinct unrelated looped)
  · intro full outer middle inner first second
    rw [contains_full_iff distinct unrelated full] at first second ⊢
    exact first.trans distinct second
  · intro direct inner
    exact ⟨length_incoming_le_one distinct unrelated direct inner,
      fun full complete => exists_contains_iff distinct unrelated direct complete inner⟩

/-- Three boxes, each in the one before. -/
def nestedThrice : Model :=
  { components := [
      { id := "outer", box := some (Box.ofCorners 0 0 9 9) },
      { id := "middle", box := some (Box.ofCorners 1 1 8 8) },
      { id := "inner", box := some (Box.ofCorners 2 2 7 7) }] }

theorem analyze_forest_nestedThrice :
    let full : ContainmentAnalyzer := {}
    let direct : ContainmentAnalyzer := { directOnly := true }
    (nestedThrice.components.map Component.id).Nodup ∧ nestedThrice.relationships = [] ∧
      ¬Relation.TransGen (full.analyze nestedThrice).Contains "inner" "inner" ∧
      (full.analyze nestedThrice).Contains "outer" "inner" ∧
      (((direct.analyze nestedThrice).ofKind Relationship.containsKind).filter fun edge =>
        edge.target == "inner").length ≤ 1 ∧
      ∃ outer, (direct.analyze nestedThrice).Contains outer "inner" := by
  intro full direct
  have distinct : (nestedThrice.components.map Component.id).Nodup := by decide
  obtain ⟨acyclic, transitive, _⟩ := analyze_forest full nestedThrice distinct rfl
  obtain ⟨_, _, parents⟩ := analyze_forest direct nestedThrice distinct rfl
  have first : (full.analyze nestedThrice).Contains "outer" "middle" :=
    (contains_full_iff distinct rfl rfl).mpr ⟨0, 1, ⟨_, _, rfl, rfl, by decide⟩, rfl, rfl⟩
  have second : (full.analyze nestedThrice).Contains "middle" "inner" :=
    (contains_full_iff distinct rfl rfl).mpr ⟨1, 2, ⟨_, _, rfl, rfl, by decide⟩, rfl, rfl⟩
  obtain ⟨single, same⟩ := parents rfl "inner"
  exact ⟨distinct, rfl, acyclic "inner", transitive rfl _ _ _ first second, single,
    (same full rfl).mpr ⟨_, second⟩⟩

end ContainmentAnalyzer

end ScreenSight
