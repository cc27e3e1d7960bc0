import Mathlib.Data.List.Nodup
import ScreenSight.Containment.Hierarchy
import ScreenSight.Proofs.Recognition.Edits

/-!
# What containment depends on

The analysis of containment looks at the ids and the boxes of components only,
and it edits components by writing properties only.  So it finds the same in the
components that it has annotated.
-/

namespace ScreenSight

namespace Containment

theorem boxedPositions_outline (components : List Component) :
    boxedPositions (components.map Component.outline) = boxedPositions components := by
  rw [boxedPositions, boxedPositions, List.zipIdx_map, List.filterMap_map]
  rfl

theorem boxAt?_outline (components : List Component) :
    boxAt? (components.map Component.outline) = boxAt? components := by
  funext position
  rw [boxAt?, boxAt?, List.getElem?_map]
  cases components[position]? <;> rfl

theorem idAt_outline (components : List Component) :
    idAt (components.map Component.outline) = idAt components := by
  funext position
  rw [idAt, idAt, List.getElem?_map]
  cases components[position]? <;> rfl

theorem pairs_outline (components : List Component) (cellSize : Nat)
    (positive : 0 < cellSize) :
    pairs (components.map Component.outline) cellSize positive =
      pairs components cellSize positive := by
  have nested (outerBox : Box) :
      isNestedIn (components.map Component.outline) outerBox =
        isNestedIn components outerBox := by
    funext position
    rw [isNestedIn, isNestedIn, boxAt?_outline]
  rw [pairs, pairs, boxedPositions_outline]
  simp only [nested]

theorem parents_outline (components : List Component) (found : List (Nat × Nat)) :
    parents (components.map Component.outline) found = parents components found := by
  have area : areaAt (components.map Component.outline) = areaAt components := by
    funext position
    rw [areaAt, areaAt, boxAt?_outline]
  have tighter : isTighter (components.map Component.outline) = isTighter components := by
    funext position other
    rw [isTighter, isTighter, area]
  have tightest : tightest? (components.map Component.outline) = tightest? components := by
    funext containers
    rw [tightest?, tightest?, tighter]
  rw [parents, parents, tightest, List.length_map]

/-- Edges with one more at the end, unless it is there or leads nowhere. -/
def addEdge (edges : List Relationship) (edge : Relationship) : List Relationship :=
  if edge.source != edge.target && !edges.contains edge then edges ++ [edge] else edges

theorem mem_addEdge {edges : List Relationship} {edge added : Relationship} :
    edge ∈ addEdge edges added ↔
      edge ∈ edges ∨ edge = added ∧ edge.source ≠ edge.target := by
  by_cases admitted : added.source ≠ added.target ∧ added ∉ edges
  · have grown : addEdge edges added = edges ++ [added] := by
      rw [addEdge, if_pos (by simpa using admitted)]
    rw [grown, List.mem_append, List.mem_singleton]
    refine or_congr_right (and_iff_left_of_imp ?_).symm
    rintro rfl
    exact admitted.1
  · have kept : addEdge edges added = edges := by
      rw [addEdge, if_neg (by simpa using admitted)]
    rw [kept]
    constructor
    · exact .inl
    · rintro (old | ⟨rfl, differ⟩)
      · exact old
      · by_contra fresh
        exact admitted ⟨differ, fresh⟩

theorem mem_foldl_addEdge {edges start : List Relationship} {edge : Relationship} :
    edge ∈ edges.foldl addEdge start ↔
      edge ∈ start ∨ edge ∈ edges ∧ edge.source ≠ edge.target := by
  induction edges generalizing start with
  | nil => simp
  | cons next rest induction =>
      rw [List.foldl_cons, induction, mem_addEdge, List.mem_cons, or_assoc, or_and_right]

/-- No edge is added twice. -/
theorem nodup_foldl_addEdge {start : List Relationship} (distinct : start.Nodup)
    (edges : List Relationship) : (edges.foldl addEdge start).Nodup := by
  refine List.foldlRecOn (motive := List.Nodup) _ _ distinct ?_
  intro current distinct edge _
  rw [addEdge]
  split
  · next admitted =>
      have fresh : edge ∉ current := by
        simp only [Bool.and_eq_true, Bool.not_eq_true', List.contains_eq_mem,
          decide_eq_false_iff_not] at admitted
        exact admitted.2
      rw [← List.concat_eq_append]
      exact distinct.concat fresh
  · exact distinct

/-- The edges of some pairs of positions. -/
def edgesOf (ids : Nat → String) (found : List (Nat × Nat)) : List Relationship :=
  found.filterMap fun (outer, inner) => Relationship.contains? (ids outer) (ids inner)

theorem mem_edgesOf {ids : Nat → String} {found : List (Nat × Nat)} {edge : Relationship} :
    edge ∈ edgesOf ids found ↔
      ∃ outer inner, (outer, inner) ∈ found ∧ ids outer ≠ ids inner ∧
        edge = ⟨ids outer, ids inner, Relationship.containsKind⟩ := by
  simp only [edgesOf, List.mem_filterMap, Prod.exists, Relationship.contains?,
    Relationship.between?]
  constructor
  · rintro ⟨outer, inner, member, made⟩
    split at made
    · cases made
    · next differ => exact ⟨outer, inner, member, differ, (Option.some.inj made).symm⟩
  · rintro ⟨outer, inner, member, differ, rfl⟩
    exact ⟨outer, inner, member, if_neg differ⟩

private theorem relate_eq (model : Model) (edge : Relationship) :
    model.relate edge =
      { model with relationships := addEdge model.relationships edge } := by
  rw [Model.relate, Model.admits, addEdge]
  split <;> rfl

/-- The edges of some pairs are added one after the other. -/
theorem relateAll_eq (model : Model) (found : List (Nat × Nat)) :
    relateAll model found =
      { model with
        relationships :=
          (edgesOf (idAt model.components) found).foldl addEdge model.relationships } := by
  rw [relateAll]
  generalize idAt model.components = ids
  induction found generalizing model with
  | nil => rfl
  | cons pair rest induction =>
      obtain ⟨outer, inner⟩ := pair
      simp only [List.foldl_cons, edgesOf, List.filterMap_cons]
      cases Relationship.contains? (ids outer) (ids inner) with
      | none => exact induction model
      | some edge =>
          have behind := induction (model.relate edge)
          rw [relate_eq model edge] at behind
          simpa only [List.foldl_cons, relate_eq model edge, edgesOf] using behind

end Containment

namespace ContainmentAnalyzer

open Containment

/-- The tightest container of each component. -/
def parentsOf (analyzer : ContainmentAnalyzer) (components : List Component) :
    List (Option Nat) :=
  parents components (analyzer.pairs ⟨components, []⟩)

/-- The pairs that the analysis keeps. -/
def keptOf (analyzer : ContainmentAnalyzer) (components : List Component) :
    List (Nat × Nat) :=
  if analyzer.directOnly then
    (analyzer.pairs ⟨components, []⟩).filter fun (outer, inner) =>
      (analyzer.parentsOf components)[inner]?.join == some outer
  else analyzer.pairs ⟨components, []⟩

/-- What the analysis writes into the component at a position. -/
def notesAt (analyzer : ContainmentAnalyzer) (components : List Component)
    (position : Nat) : List (String × Value) :=
  Component.noteWrites
    ((contentsOf (analyzer.keptOf components) position).map (idAt components))
    ((analyzer.parentsOf components)[position]?.join.map (idAt components))

theorem keptOf_outline (analyzer : ContainmentAnalyzer) (components : List Component) :
    analyzer.keptOf (components.map Component.outline) = analyzer.keptOf components := by
  simp only [keptOf, parentsOf, ContainmentAnalyzer.pairs, pairs_outline, parents_outline]

theorem notesAt_outline (analyzer : ContainmentAnalyzer) (components : List Component) :
    analyzer.notesAt (components.map Component.outline) =
      analyzer.notesAt components := by
  funext position
  simp only [notesAt, keptOf_outline, idAt_outline, parentsOf, ContainmentAnalyzer.pairs,
    pairs_outline, parents_outline]

/-- The analysis adds the edges of the pairs that it keeps, and it writes its
notes into the components. -/
theorem analyze_eq (analyzer : ContainmentAnalyzer) (model : Model) :
    analyzer.analyze model =
      { components := model.components.mapIdx fun position component =>
          component.apply { writes := analyzer.notesAt model.components position }
        relationships :=
          (edgesOf (idAt model.components) (analyzer.keptOf model.components)).foldl
            addEdge model.relationships } := by
  rw [analyze, relateAll_eq]
  congr 1
  rw [annotate]
  simp only [Component.writeParent_writeChildren]
  rfl

end ContainmentAnalyzer

end ScreenSight
