import ScreenSight.Proofs.Containment.Parents

/-!
# What the analysis writes

The analysis writes its result three times: as edges, as lists of children and as parents.
The edges and the lists follow the pairs that are kept, with an edge and a child for each of
them, and the parents are the same whatever is kept.
-/

namespace ScreenSight

namespace Containment

variable {components : List Component}

/-! ## Edges -/

/-- The edge of a pair of positions. -/
def edgeAt (components : List Component) (pair : Nat × Nat) : Relationship :=
  ⟨idAt components pair.1, idAt components pair.2, Relationship.containsKind⟩

/-- Of edges that differ and lead somewhere, those are added that were not there. -/
theorem foldl_addEdge_eq {edges : List Relationship} (distinct : edges.Nodup)
    (proper : ∀ edge ∈ edges, edge.source ≠ edge.target) (start : List Relationship) :
    edges.foldl addEdge start = start ++ edges.filter fun edge => edge ∉ start := by
  induction edges generalizing start with
  | nil => simp
  | cons edge rest induction =>
      obtain ⟨fresh, distinct⟩ := List.nodup_cons.mp distinct
      obtain ⟨differ, proper⟩ := List.forall_mem_cons.mp proper
      rw [List.foldl_cons, induction distinct proper, List.filter_cons]
      by_cases known : edge ∈ start
      · have kept : addEdge start edge = start := by simp [addEdge, known]
        simp [kept, known]
      · have grown : addEdge start edge = start ++ [edge] := by simp [addEdge, known, differ]
        have others : rest.filter (fun other => other ∉ start ++ [edge]) =
            rest.filter fun other => other ∉ start := by
          apply List.filter_congr
          intro other listed
          have apart : other ≠ edge := fun same => fresh (same ▸ listed)
          simp [apart]
        rw [grown, others]
        simp [known]

section

variable (distinct : (components.map Component.id).Nodup) {found : List (Nat × Nat)}
variable (nested : ∀ pair ∈ found, Nests components pair.1 pair.2)

include distinct nested

theorem proper_edgeAt {pair : Nat × Nat} (member : pair ∈ found) :
    idAt components pair.1 ≠ idAt components pair.2 := by
  intro same
  have around := nested pair member
  rw [idAt_injective distinct around.lt.1 around.lt.2 same] at around
  exact not_nests_self pair.2 around

theorem edgesOf_eq_map : edgesOf (idAt components) found = found.map (edgeAt components) := by
  rw [edgesOf, ← List.filterMap_eq_map]
  apply List.filterMap_congr
  intro pair member
  exact if_neg (proper_edgeAt distinct nested member)

theorem nodup_map_edgeAt (unrepeated : found.Nodup) : (found.map (edgeAt components)).Nodup := by
  refine unrepeated.map_on ?_
  intro pair member other otherMember same
  obtain ⟨sources, targets, _⟩ := Relationship.mk.inj same
  obtain ⟨outer, inner⟩ := (nested pair member).lt
  obtain ⟨otherOuter, otherInner⟩ := (nested other otherMember).lt
  exact Prod.ext (idAt_injective distinct outer otherOuter sources)
    (idAt_injective distinct inner otherInner targets)

/-- The edges of nested pairs are added in the order of the pairs, except for those that were
there. -/
theorem foldl_addEdge_edgesOf (unrepeated : found.Nodup) (start : List Relationship) :
    (edgesOf (idAt components) found).foldl addEdge start =
      start ++ (found.map (edgeAt components)).filter fun edge => edge ∉ start := by
  rw [edgesOf_eq_map distinct nested]
  apply foldl_addEdge_eq (nodup_map_edgeAt distinct nested unrepeated)
  intro edge member
  obtain ⟨pair, listed, rfl⟩ := List.mem_map.mp member
  exact proper_edgeAt distinct nested listed

end

/-! ## Lists of children -/

/-- Along pairs the positions in each container increase. -/
def InOrder (found : List (Nat × Nat)) : Prop :=
  found.Pairwise fun left right => left.1 = right.1 → left.2 < right.2

theorem InOrder.nodup {found : List (Nat × Nat)} (ordered : InOrder found) : found.Nodup := by
  refine ordered.imp ?_
  rintro left right increasing rfl
  exact Nat.lt_irrefl _ (increasing rfl)

theorem inOrder_searchPairs (components : List Component) : InOrder (searchPairs components) := by
  have increasing := boxedPositions_increasing components
  refine List.pairwise_flatMap.mpr ⟨?_, ?_⟩
  · intro outer _
    refine List.pairwise_map.mpr ((increasing.filter _).imp ?_)
    intro first second before _
    exact before
  · -- different containers stand at different positions
    have outers : ((byArea (boxedPositions components)).map Prod.fst).Nodup := by
      have positions : ((boxedPositions components).map Prod.fst).Nodup :=
        List.pairwise_map.mpr (increasing.imp fun before => Nat.ne_of_lt before)
      exact ((List.mergeSort_perm _ _).map Prod.fst).nodup_iff.mpr positions
    refine (List.pairwise_map.mp outers).imp ?_
    intro first second differ left leftFound right rightFound same
    obtain ⟨_, _, rfl⟩ := List.mem_map.mp leftFound
    obtain ⟨_, _, rfl⟩ := List.mem_map.mp rightFound
    exact absurd same differ

theorem mem_contentsOf_iff {found : List (Nat × Nat)} {outer inner : Nat} :
    inner ∈ contentsOf found outer ↔ (outer, inner) ∈ found := by
  simp [contentsOf]

/-- The contents of a container are listed by position. -/
theorem InOrder.pairwise_contentsOf {found : List (Nat × Nat)} (ordered : InOrder found)
    (outer : Nat) : (contentsOf found outer).Pairwise (· < ·) := by
  refine List.pairwise_map.mpr ((ordered.filter _).imp_of_mem ?_)
  intro left right leftFound rightFound increasing
  have leftOuter := (List.mem_filter.mp leftFound).2
  have rightOuter := (List.mem_filter.mp rightFound).2
  rw [beq_iff_eq] at leftOuter rightOuter
  exact increasing (leftOuter.trans rightOuter.symm)

theorem map_idAt_range (components : List Component) :
    (List.range components.length).map (idAt components) = components.map Component.id := by
  apply List.ext_getElem?
  intro position
  by_cases inside : position < components.length
  · simp [inside, idAt]
  · simp [inside]

/-- Positions that increase pick ids in the order of the components. -/
theorem sublist_map_idAt {positions : List Nat} (increasing : positions.Pairwise (· < ·))
    (inside : ∀ position ∈ positions, position < components.length) :
    (positions.map (idAt components)).Sublist (components.map Component.id) := by
  have picked : positions =
      (List.range components.length).filter fun position => position ∈ positions := by
    apply increasing.eq_of_mem_iff (List.pairwise_lt_range.filter _)
    intro position
    simpa using inside position
  rw [picked, ← map_idAt_range]
  exact List.filter_sublist.map (idAt components)

/-- A list of ids holds the children of a component, in the order of the model and each once. -/
structure ListsChildren (components : List Component) (kept : List (Nat × Nat)) (outer : Nat)
    (ids : List String) : Prop where
  ordered : ids.Sublist (components.map Component.id)
  unrepeated : ids.Nodup
  complete : ∀ inner, (outer, inner) ∈ kept ↔
    inner < components.length ∧ idAt components inner ∈ ids

theorem InOrder.listsChildren (distinct : (components.map Component.id).Nodup)
    {kept : List (Nat × Nat)} (ordered : InOrder kept)
    (nested : ∀ pair ∈ kept, Nests components pair.1 pair.2) (outer : Nat) :
    ListsChildren components kept outer ((contentsOf kept outer).map (idAt components)) := by
  have inside (inner : Nat) (listed : inner ∈ contentsOf kept outer) :
      inner < components.length :=
    (nested _ (mem_contentsOf_iff.mp listed)).lt.2
  have sublist := sublist_map_idAt (ordered.pairwise_contentsOf outer) inside
  refine ⟨sublist, distinct.sublist sublist, ?_⟩
  intro inner
  rw [← mem_contentsOf_iff, List.mem_map]
  constructor
  · intro listed
    exact ⟨inside inner listed, inner, listed, rfl⟩
  · rintro ⟨within, other, listed, same⟩
    rwa [← idAt_injective distinct (inside other listed) within same]

end Containment

/-! ## Components -/

namespace ContainmentAnalyzer

open Containment

variable {analyzer : ContainmentAnalyzer} {components : List Component}

theorem keptOf_sublist (analyzer : ContainmentAnalyzer) (components : List Component) :
    (analyzer.keptOf components).Sublist (analyzer.pairs ⟨components, []⟩) := by
  rw [keptOf]
  split
  · exact List.filter_sublist
  · exact List.Sublist.refl _

theorem inOrder_keptOf (analyzer : ContainmentAnalyzer) (components : List Component) :
    InOrder (analyzer.keptOf components) := by
  have found : analyzer.pairs ⟨components, []⟩ = searchPairs components :=
    pairs_eq_searchPairs components analyzer.cellSize analyzer.cellSize_pos
  have sublist := analyzer.keptOf_sublist components
  rw [found] at sublist
  exact (inOrder_searchPairs components).sublist sublist

/-- What the analysis has written into a component that had neither children nor a parent. -/
structure Annotates (analyzer : ContainmentAnalyzer) (components : List Component)
    (position : Nat) (before after : Component) : Prop where
  children : ∃ ids, ListsChildren components (analyzer.keptOf components) position ids ∧
    after.property? childrenProperty = if ids = [] then none else some (Value.ofTexts ids)
  childless : after.property? childrenProperty = none ↔
    ∀ inner, (position, inner) ∉ analyzer.keptOf components
  parent : ∀ value, after.property? parentProperty = some value ↔
    ∃ outer, IsParent components outer position ∧ value = .text (idAt components outer)
  contained : (after.property? parentProperty).isSome = true ↔
    ∃ outer, Nests components outer position
  others : ∀ name, name ≠ childrenProperty → name ≠ parentProperty →
    after.property? name = before.property? name
  bare : after.bare = before.bare

theorem exists_isParent_iff {inner : Nat} :
    (∃ parent, IsParent components parent inner) ↔ ∃ outer, Nests components outer inner := by
  constructor
  · rintro ⟨parent, isParent⟩
    exact ⟨parent, isParent.1⟩
  · rintro ⟨outer, nested⟩
    obtain ⟨parent, found⟩ :=
      @exists_parent ⟨components, []⟩ ({} : ContainmentAnalyzer) outer inner nested
    exact ⟨parent, parentsOf_eq_some_iff.mp found⟩

/-- The notes about a component are its children and its parent. -/
theorem annotates_apply (distinct : (components.map Component.id).Nodup) (position : Nat)
    {component : Component} (childless : component.property? childrenProperty = none)
    (orphan : component.property? parentProperty = none) :
    analyzer.Annotates components position component
      (component.apply { writes := analyzer.notesAt components position }) := by
  let kept := analyzer.keptOf components
  let ids := (contentsOf kept position).map (idAt components)
  have nested : ∀ pair ∈ kept, Nests components pair.1 pair.2 := fun _ => nests_of_mem_keptOf
  have listed : ListsChildren components kept position ids :=
    (inOrder_keptOf analyzer components).listsChildren distinct nested position
  let parent? := (analyzer.parentsOf components)[position]?.join
  let after := component.apply { writes := analyzer.notesAt components position }
  have children : after.property? childrenProperty =
      if ids = [] then none else some (Value.ofTexts ids) := by
    have noted := component.property?_children_noted ids (parent?.map (idAt components))
    rwa [childless] at noted
  have parent : after.property? parentProperty =
      parent?.map fun outer => .text (idAt components outer) := by
    have noted := component.property?_parent_noted ids (parent?.map (idAt components))
    rwa [orphan, Option.or_none, Option.map_map] at noted
  refine ⟨⟨ids, listed, children⟩, ?_, ?_, ?_, ?_, rfl⟩
  · rw [children, ite_eq_left_iff]
    simp [ids, List.eq_nil_iff_forall_not_mem, mem_contentsOf_iff, kept]
  · intro value
    rw [parent, Option.map_eq_some_iff]
    exact exists_congr fun outer => and_congr parentsOf_eq_some_iff eq_comm
  · rw [parent, Option.isSome_map, Option.isSome_iff_exists, ← exists_isParent_iff]
    exact exists_congr fun outer => parentsOf_eq_some_iff
  · intro name notChildren notParent
    apply Component.property?_apply
    intro noted
    cases Component.mem_names_noteWrites noted with
    | inl same => exact notChildren same
    | inr same => exact notParent same

/-- Edges, lists of children and parents agree with one another. -/
theorem analyze_annotates (analyzer : ContainmentAnalyzer) (model : Model)
    (distinct : (model.components.map Component.id).Nodup)
    (plain : ∀ component ∈ model.components,
      component.property? childrenProperty = none ∧ component.property? parentProperty = none) :
    let kept := analyzer.keptOf model.components
    let result := analyzer.analyze model
    kept.Sublist (analyzer.pairs model) ∧
      (∀ outer inner, (outer, inner) ∈ kept ↔ Nests model.components outer inner ∧
        (analyzer.directOnly = true → IsParent model.components outer inner)) ∧
      result.relationships = model.relationships ++
        (kept.map (edgeAt model.components)).filter (fun edge => edge ∉ model.relationships) ∧
      result.components.length = model.components.length ∧
      ∀ position before, model.components[position]? = some before →
        ∃ after, result.components[position]? = some after ∧
          analyzer.Annotates model.components position before after := by
  intro kept result
  have written : result = _ := analyzer.analyze_eq model
  have nested : ∀ pair ∈ kept, Nests model.components pair.1 pair.2 :=
    fun _ => nests_of_mem_keptOf
  refine ⟨analyzer.keptOf_sublist model.components, fun _ _ => mem_keptOf_iff, ?_, ?_, ?_⟩
  · rw [written]
    exact foldl_addEdge_edgesOf distinct nested
      (inOrder_keptOf analyzer model.components).nodup model.relationships
  · rw [written]
    exact List.length_mapIdx
  · intro position before present
    obtain ⟨childless, orphan⟩ := plain before (List.mem_of_getElem? present)
    refine ⟨_, ?_, annotates_apply distinct position childless orphan⟩
    rw [written, List.getElem?_mapIdx, present]
    rfl

/-- Three boxes, each in the one before, with an edge between two of them. -/
def nestedAndRelated : Model :=
  { nestedThrice with
    relationships := [⟨"outer", "middle", Relationship.containsKind⟩] }

theorem analyze_annotates_nestedAndRelated :
    let analyzer : ContainmentAnalyzer := { directOnly := true }
    let model := nestedAndRelated
    (model.components.map Component.id).Nodup ∧
      (∀ component ∈ model.components, component.property? childrenProperty = none ∧
        component.property? parentProperty = none) ∧
      (0, 1) ∈ analyzer.keptOf model.components ∧ (0, 2) ∉ analyzer.keptOf model.components ∧
      (analyzer.analyze model).relationships = model.relationships ++
        ((analyzer.keptOf model.components).map (edgeAt model.components)).filter
          (fun edge => edge ∉ model.relationships) ∧
      ∃ after, (analyzer.analyze model).components[2]? = some after ∧
        after.property? parentProperty = some (.text "middle") ∧
        after.property? childrenProperty = none := by
  intro analyzer model
  have distinct : (model.components.map Component.id).Nodup := by decide
  have plain : ∀ component ∈ model.components,
      component.property? childrenProperty = none ∧
        component.property? parentProperty = none := by
    intro component listed
    have unnoted : component.properties = SortedMap.empty := by
      simp only [model, nestedAndRelated, nestedThrice, List.mem_cons, List.not_mem_nil,
        or_false] at listed
      rcases listed with rfl | rfl | rfl <;> rfl
    simp [Component.property?, unnoted]
  obtain ⟨_, kept, edges, _, components⟩ := analyze_annotates analyzer model distinct plain
  obtain ⟨after, written, annotates⟩ := components 2 _ rfl
  have holdsNothing : ∀ inner, (2, inner) ∉ analyzer.keptOf model.components := by
    intro inner listed
    have nested := ((kept 2 inner).mp listed).1
    have apart : ∀ inner < 3, ¬Nests model.components 2 inner := by decide
    exact apart inner nested.lt.2 nested
  have parent := (annotates.parent (.text "middle")).mpr ⟨1, by decide, rfl⟩
  refine ⟨distinct, plain, ?_, ?_, edges, after, written, parent, ?_⟩
  · exact (kept 0 1).mpr (by decide)
  · exact fun listed => absurd ((kept 0 2).mp listed) (by decide)
  · exact annotates.childless.mpr holdsNothing

end ContainmentAnalyzer

end ScreenSight
