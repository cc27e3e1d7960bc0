import ScreenSight.Proofs.Containment.Annotation

/-!
# Repeating the analysis

The analysis leaves a model alone just if the model shows its containment already: the
edges of the pairs that are kept are there, as far as they lead somewhere, and the
components name their children and parents.  It leaves such a model behind whatever it
began with, also if components share an id or bring other children and parents along.
-/

namespace ScreenSight

namespace Containment

/-- Edges add nothing just if those that lead somewhere are there. -/
theorem foldl_addEdge_eq_self_iff {edges start : List Relationship} :
    edges.foldl addEdge start = start ↔
      ∀ edge ∈ edges, edge.source ≠ edge.target → edge ∈ start := by
  constructor
  · intro unchanged edge listed differ
    rw [← unchanged]
    exact mem_foldl_addEdge.mpr (.inr ⟨listed, differ⟩)
  · intro present
    induction edges with
    | nil => rfl
    | cons edge rest induction =>
        obtain ⟨first, others⟩ := List.forall_mem_cons.mp present
        have kept : addEdge start edge = start := by
          by_cases differ : edge.source = edge.target
          · simp [addEdge, differ]
          · simp [addEdge, first differ]
        rw [List.foldl_cons, kept]
        exact induction others

end Containment

/-! ## Notes -/

namespace Component

variable {component : Component}

theorem apply_eq_self_of_property? {writes : List (String × Value)}
    (same : ∀ name, (component.apply { writes := writes }).property? name =
      component.property? name) :
    component.apply { writes := writes } = component := by
  have properties : component.properties.insertAll writes = component.properties :=
    SortedMap.ext_get? same
  rw [apply, properties]
  rfl

/-- Notes change nothing just if the component holds them. -/
theorem apply_noteWrites_eq_self_iff {children : List String} {parent : Option String} :
    component.apply { writes := noteWrites children parent } = component ↔
      (children ≠ [] →
        component.property? Containment.childrenProperty = some (Value.ofTexts children)) ∧
      ∀ id, parent = some id →
        component.property? Containment.parentProperty = some (.text id) := by
  have noted := component.property?_children_noted children parent
  have named := component.property?_parent_noted children parent
  constructor
  · intro unchanged
    rw [unchanged] at noted named
    constructor
    · intro any
      rw [noted, if_neg any]
    · rintro id rfl
      exact named
  · rintro ⟨listed, parented⟩
    apply apply_eq_self_of_property?
    intro name
    by_cases isChildren : name = Containment.childrenProperty
    · rw [isChildren, noted, ite_eq_left_iff]
      exact fun any => (listed any).symm
    · by_cases isParent : name = Containment.parentProperty
      · rw [isParent, named]
        cases parent with
        | none => rfl
        | some id => exact (parented id rfl).symm
      · apply property?_apply
        intro written
        cases mem_names_noteWrites written with
        | inl same => exact isChildren same
        | inr same => exact isParent same

end Component

/-! ## Models that show their containment -/

namespace Containment

theorem forall_mem_edgesOf_iff {ids : Nat → String} {found : List (Nat × Nat)}
    {edges : List Relationship} :
    (∀ edge ∈ edgesOf ids found, edge.source ≠ edge.target → edge ∈ edges) ↔
      ∀ pair ∈ found, ids pair.1 ≠ ids pair.2 →
        ⟨ids pair.1, ids pair.2, Relationship.containsKind⟩ ∈ edges := by
  constructor
  · intro shown pair listed differ
    exact shown _ (mem_edgesOf.mpr ⟨pair.1, pair.2, listed, differ, rfl⟩) differ
  · intro shown edge member _
    obtain ⟨outer, inner, listed, differ, rfl⟩ := mem_edgesOf.mp member
    exact shown (outer, inner) listed differ

theorem mapIdx_eq_self_iff {α : Type} {items : List α} {change : Nat → α → α} :
    items.mapIdx change = items ↔
      ∀ position item, items[position]? = some item → change position item = item := by
  rw [List.mapIdx_eq_iff]
  apply forall_congr'
  intro position
  cases items[position]? with
  | none => simp
  | some item => simp [eq_comm]

end Containment

namespace ContainmentAnalyzer

open Containment

/-- A model has the edges that the analysis would add, and its components hold what the
analysis would write into them. -/
structure IsShownIn (analyzer : ContainmentAnalyzer) (model : Model) : Prop where
  edges : ∀ pair ∈ analyzer.keptOf model.components,
    idAt model.components pair.1 ≠ idAt model.components pair.2 →
      edgeAt model.components pair ∈ model.relationships
  children : ∀ position component, model.components[position]? = some component →
    ∀ ids, (contentsOf (analyzer.keptOf model.components) position).map
        (idAt model.components) = ids →
      ids ≠ [] → component.property? childrenProperty = some (Value.ofTexts ids)
  parent : ∀ position component, model.components[position]? = some component →
    ∀ outer, IsParent model.components outer position →
      component.property? parentProperty = some (.text (idAt model.components outer))

variable (analyzer : ContainmentAnalyzer) (model : Model)

/-- The analysis changes nothing just in the models that show their containment. -/
theorem analyze_eq_self_iff : analyzer.analyze model = model ↔ analyzer.IsShownIn model := by
  obtain ⟨components, relationships⟩ := model
  rw [analyze_eq, Model.mk.injEq, mapIdx_eq_self_iff, foldl_addEdge_eq_self_iff,
    forall_mem_edgesOf_iff]
  simp only [notesAt, Component.apply_noteWrites_eq_self_iff, Option.map_eq_some_iff,
    parentsOf_eq_some_iff]
  constructor
  · rintro ⟨noted, edges⟩
    refine ⟨edges, ?_, ?_⟩
    · rintro position component present ids rfl any
      exact (noted position component present).1 any
    · intro position component present outer isParent
      exact (noted position component present).2 _ ⟨outer, isParent, rfl⟩
  · intro shown
    refine ⟨?_, shown.edges⟩
    intro position component present
    refine ⟨shown.children position component present _ rfl, ?_⟩
    rintro _ ⟨outer, isParent, rfl⟩
    exact shown.parent position component present outer isParent

/-! ## After the analysis -/

theorem outline_analyze :
    (analyzer.analyze model).components.map Component.outline =
      model.components.map Component.outline := by
  rw [analyze_eq]
  apply List.ext_getElem?
  intro position
  rw [List.getElem?_map, List.getElem?_mapIdx, Option.map_map, List.getElem?_map]
  rfl

section

variable {components others : List Component}
variable (same : components.map Component.outline = others.map Component.outline)

include same

theorem keptOf_eq_of_map_outline : analyzer.keptOf components = analyzer.keptOf others := by
  rw [← keptOf_outline, same, keptOf_outline]

theorem notesAt_eq_of_map_outline : analyzer.notesAt components = analyzer.notesAt others := by
  rw [← notesAt_outline, same, notesAt_outline]

theorem idAt_eq_of_map_outline : idAt components = idAt others := by
  rw [← idAt_outline, same, idAt_outline]

theorem boxAt?_eq_of_map_outline : boxAt? components = boxAt? others := by
  rw [← boxAt?_outline, same, boxAt?_outline]

theorem nests_eq_of_map_outline : Nests components = Nests others := by
  funext outer inner
  rw [Nests, Nests, boxAt?_eq_of_map_outline same]

theorem areaAt_eq_of_map_outline : areaAt components = areaAt others := by
  funext position
  rw [areaAt, areaAt, boxAt?_eq_of_map_outline same]

end

theorem keptOf_analyze :
    analyzer.keptOf (analyzer.analyze model).components = analyzer.keptOf model.components :=
  analyzer.keptOf_eq_of_map_outline (analyzer.outline_analyze model)

theorem idAt_analyze :
    idAt (analyzer.analyze model).components = idAt model.components :=
  idAt_eq_of_map_outline (analyzer.outline_analyze model)

theorem nests_analyze :
    Nests (analyzer.analyze model).components = Nests model.components :=
  nests_eq_of_map_outline (analyzer.outline_analyze model)

theorem areaAt_analyze :
    areaAt (analyzer.analyze model).components = areaAt model.components :=
  areaAt_eq_of_map_outline (analyzer.outline_analyze model)

theorem isParent_analyze :
    IsParent (analyzer.analyze model).components = IsParent model.components := by
  funext outer inner
  rw [IsParent, IsParent, nests_analyze, areaAt_analyze]

/-- What the analysis leaves shows its containment, whatever it was before. -/
theorem isShownIn_analyze : analyzer.IsShownIn (analyzer.analyze model) := by
  have written (position : Nat) (after : Component)
      (present : (analyzer.analyze model).components[position]? = some after) :
      ∃ before : Component,
        before.apply { writes := analyzer.notesAt model.components position } = after := by
    rw [analyze_eq, List.getElem?_mapIdx] at present
    obtain ⟨before, _, same⟩ := Option.map_eq_some_iff.mp present
    exact ⟨before, same⟩
  constructor
  case edges =>
    intro pair listed differ
    rw [keptOf_analyze] at listed
    rw [idAt_analyze] at differ
    have edge : edgeAt model.components pair ∈
        edgesOf (idAt model.components) (analyzer.keptOf model.components) :=
      mem_edgesOf.mpr ⟨pair.1, pair.2, listed, differ, rfl⟩
    rw [edgeAt, idAt_analyze, analyze_eq]
    exact mem_foldl_addEdge.mpr (.inr ⟨edge, differ⟩)
  case children =>
    rintro position after present ids rfl any
    obtain ⟨before, rfl⟩ := written position after present
    rw [keptOf_analyze, idAt_analyze] at any ⊢
    rw [notesAt, Component.property?_children_noted, if_neg any]
  case parent =>
    intro position after present outer isParent
    obtain ⟨before, rfl⟩ := written position after present
    rw [isParent_analyze] at isParent
    rw [notesAt, Component.property?_parent_noted, parentsOf_eq_some_iff.mpr isParent,
      idAt_analyze]
    rfl

/-- To analyse a model once more changes nothing, whatever the model was. -/
theorem analyze_analyze (analyzer : ContainmentAnalyzer) (model : Model) :
    analyzer.analyze (analyzer.analyze model) = analyzer.analyze model :=
  (analyzer.analyze_eq_self_iff _).mpr (analyzer.isShownIn_analyze model)

end ContainmentAnalyzer

end ScreenSight
