import Mathlib.Data.List.NodupEquivFin
import ScreenSight.Proofs.Containment.Repetition

/-!
# Analysing what is left of a model

Components keep what an analysis has written into them when others are taken out of the
model.  The next analysis writes the children and the parents that it finds and takes none
back: a component whose containers have all gone keeps the name of one of them, and a
container that has become empty keeps the list of what was in it.
-/

namespace ScreenSight

namespace Component

/-- A component without children and parent. -/
def unnoted (component : Component) : Component :=
  { component with
    properties := (component.properties.erase Containment.childrenProperty).erase
      Containment.parentProperty }

variable {component : Component}

theorem outline_unnoted : component.unnoted.outline = component.outline := rfl

theorem property?_unnoted (name : String) :
    component.unnoted.property? name =
      if name = Containment.parentProperty then none
      else if name = Containment.childrenProperty then none
      else component.property? name := by
  rw [property?, unnoted, SortedMap.get?_erase, SortedMap.get?_erase]
  rfl

/-- Writes leave of a component what they leave without its children and parent, and these
where they are not written. -/
theorem property?_apply_unnoted (writes : List (String × Value)) (name : String) :
    (component.apply { writes := writes }).property? name =
      ((component.unnoted.apply { writes := writes }).property? name).or
        (component.property? name) := by
  have written (start : Component) :
      (start.apply { writes := writes }).property? name =
        (SortedMap.findIn name writes.reverse).or (start.property? name) :=
    SortedMap.get?_insertAll start.properties writes name
  rw [written, written, Option.or_assoc, property?_unnoted]
  split_ifs
  · rfl
  · rfl
  · rw [Option.or_self]

/-- Children and parent that a component has before some writes make a difference only where
they are not written. -/
theorem apply_eq_apply_unnoted_iff {writes : List (String × Value)} :
    component.apply { writes := writes } = component.unnoted.apply { writes := writes } ↔
      ∀ name, (component.unnoted.apply { writes := writes }).property? name = none →
        component.property? name = none := by
  constructor
  · intro same name nothing
    have written := component.property?_apply_unnoted writes name
    rw [same, nothing, Option.none_or] at written
    exact written.symm
  · intro absent
    have properties : component.properties.insertAll writes =
        component.unnoted.properties.insertAll writes := by
      apply SortedMap.ext_get?
      intro name
      change (component.apply { writes := writes }).property? name =
        (component.unnoted.apply { writes := writes }).property? name
      rw [property?_apply_unnoted]
      cases found : (component.unnoted.apply { writes := writes }).property? name with
      | none => exact absent name found
      | some value => rfl
    rw [apply, apply, properties]
    rfl

end Component

namespace Containment

/-! ## Places

Each of the components that are left has a place among those that were there. -/

section

variable {rest components : List Component} {place : ℕ ↪o ℕ}
variable (placed : ∀ position, rest[position]? = components[place position]?)

include placed

theorem boxAt?_place (position : Nat) :
    boxAt? rest position = boxAt? components (place position) := by
  rw [boxAt?, boxAt?, placed]

theorem areaAt_place (position : Nat) :
    areaAt rest position = areaAt components (place position) := by
  rw [areaAt, areaAt, boxAt?_place placed]

theorem nests_place_iff {outer inner : Nat} :
    Nests rest outer inner ↔ Nests components (place outer) (place inner) := by
  rw [Nests, Nests, boxAt?_place placed, boxAt?_place placed]

/-- A parent that is left is still the parent: the order of the components has not changed. -/
theorem IsParent.of_place {outer inner : Nat}
    (isParent : IsParent components (place outer) (place inner)) :
    IsParent rest outer inner := by
  obtain ⟨nested, least⟩ := isParent
  refine ⟨(nests_place_iff placed).mpr nested, ?_⟩
  intro other otherNested
  have bound := least (place other) ((nests_place_iff placed).mp otherNested)
  rwa [place.le_iff_le, ← areaAt_place placed, ← areaAt_place placed] at bound

theorem mem_keptOf_of_place {analyzer : ContainmentAnalyzer} {outer inner : Nat}
    (kept : (place outer, place inner) ∈ analyzer.keptOf components) :
    (outer, inner) ∈ analyzer.keptOf rest := by
  obtain ⟨nested, parent⟩ := ContainmentAnalyzer.mem_keptOf_iff.mp kept
  refine ContainmentAnalyzer.mem_keptOf_iff.mpr ⟨(nests_place_iff placed).mpr nested, ?_⟩
  intro direct
  exact (parent direct).of_place placed

variable (distinct : (components.map Component.id).Nodup)

include distinct

/-- A component with the id of one that is left is left. -/
theorem exists_place_eq {position : Nat} (inside : position < components.length)
    (listed : idAt components position ∈ rest.map Component.id) :
    ∃ other, place other = position := by
  obtain ⟨component, member, same⟩ := List.mem_map.mp listed
  obtain ⟨other, present⟩ := List.mem_iff_getElem?.mp member
  rw [placed] at present
  have within : place other < components.length := (List.getElem?_eq_some_iff.mp present).1
  refine ⟨other, idAt_injective distinct within inside ?_⟩
  rw [← same, idAt, present]
  rfl

/-- What held a component that nothing holds any more is gone. -/
theorem idAt_notMem_of_free {outer inner : Nat} (free : ∀ other, ¬Nests rest other inner)
    (nested : Nests components outer (place inner)) :
    idAt components outer ∉ rest.map Component.id := by
  intro listed
  obtain ⟨other, rfl⟩ := exists_place_eq placed distinct nested.lt.1 listed
  exact free other ((nests_place_iff placed).mpr nested)

/-- What was kept in a component that keeps nothing any more is gone. -/
theorem idAt_notMem_of_emptied {analyzer : ContainmentAnalyzer} {outer inner : Nat}
    (emptied : ∀ other, (outer, other) ∉ analyzer.keptOf rest)
    (kept : (place outer, inner) ∈ analyzer.keptOf components) :
    idAt components inner ∉ rest.map Component.id := by
  intro listed
  have inside := (ContainmentAnalyzer.nests_of_mem_keptOf kept).lt.2
  obtain ⟨other, rfl⟩ := exists_place_eq placed distinct inside listed
  exact emptied other (mem_keptOf_of_place placed kept)

end

end Containment

namespace ContainmentAnalyzer

open Containment

/-! ## The next analysis -/

/-- Two components by their ids, one kept in the other. -/
def KeepsById (analyzer : ContainmentAnalyzer) (components : List Component)
    (outer inner : String) : Prop :=
  ∃ outerPlace innerPlace, (outerPlace, innerPlace) ∈ analyzer.keptOf components ∧
    outer = idAt components outerPlace ∧ inner = idAt components innerPlace

/-- Components have children only if something is kept in them, and a parent only if they lie
in something. -/
def IsCurrent (analyzer : ContainmentAnalyzer) (components : List Component) : Prop :=
  ∀ position component, components[position]? = some component →
    (component.property? childrenProperty ≠ none →
      ∃ inner, (position, inner) ∈ analyzer.keptOf components) ∧
    (component.property? parentProperty ≠ none → ∃ outer, Nests components outer position)

/-- What the next analysis leaves of a component that is left of some others, by what it leaves
of the component if its children and parent are taken away first. -/
structure Renews (analyzer : ContainmentAnalyzer) (components rest : List Component)
    (position : Nat) (before after clean : Component) : Prop where
  annotates : analyzer.Annotates rest position before.unnoted clean
  bare : after.bare = clean.bare
  written : ∀ name, after.property? name = (clean.property? name).or (before.property? name)
  staleParent : clean.property? parentProperty = none →
    (∃ outer, NestsById components outer before.id) →
      ∃ id, after.property? parentProperty = some (.text id) ∧
        NestsById components id before.id ∧ id ∉ rest.map Component.id
  staleChildren : clean.property? childrenProperty = none →
    (∃ inner, analyzer.KeepsById components before.id inner) →
      ∃ ids, ids ≠ [] ∧ after.property? childrenProperty = some (Value.ofTexts ids) ∧
        ∀ id ∈ ids, analyzer.KeepsById components before.id id ∧ id ∉ rest.map Component.id

variable (analyzer : ContainmentAnalyzer)

theorem map_outline_unnoted (rest : List Component) :
    (rest.map Component.unnoted).map Component.outline = rest.map Component.outline := by
  rw [List.map_map]
  exact List.map_congr_left fun _ _ => Component.outline_unnoted

theorem components_analyze (model : Model) (position : Nat) :
    (analyzer.analyze model).components[position]? =
      model.components[position]?.map fun component =>
        component.apply { writes := analyzer.notesAt model.components position } := by
  rw [analyze_eq, List.getElem?_mapIdx]

theorem length_analyze (model : Model) :
    (analyzer.analyze model).components.length = model.components.length := by
  rw [analyze_eq]
  exact List.length_mapIdx

theorem components_analyze_unnoted (rest : List Component) (position : Nat) :
    (analyzer.analyze ⟨rest.map Component.unnoted, []⟩).components[position]? =
      rest[position]?.map fun component =>
        component.unnoted.apply { writes := analyzer.notesAt rest position } := by
  rw [components_analyze, analyzer.notesAt_eq_of_map_outline (map_outline_unnoted rest),
    List.getElem?_map, Option.map_map]
  rfl

theorem relationships_analyze_unnoted (rest : List Component) :
    (analyzer.analyze ⟨rest.map Component.unnoted, []⟩).relationships =
      (analyzer.analyze ⟨rest, []⟩).relationships := by
  have outline := map_outline_unnoted rest
  rw [analyze_eq, analyze_eq, idAt_eq_of_map_outline outline,
    analyzer.keptOf_eq_of_map_outline outline]

section

variable {analyzer} {rest : List Component}

theorem analyze_eq_analyze_unnoted_iff_forall :
    analyzer.analyze ⟨rest, []⟩ = analyzer.analyze ⟨rest.map Component.unnoted, []⟩ ↔
      ∀ (position : Nat) (component : Component), rest[position]? = some component →
        component.apply { writes := analyzer.notesAt rest position } =
          component.unnoted.apply { writes := analyzer.notesAt rest position } := by
  have edges := analyzer.relationships_analyze_unnoted rest
  have components : analyzer.analyze ⟨rest, []⟩ =
      analyzer.analyze ⟨rest.map Component.unnoted, []⟩ ↔
        (analyzer.analyze ⟨rest, []⟩).components =
          (analyzer.analyze ⟨rest.map Component.unnoted, []⟩).components := by
    constructor
    · exact congrArg Model.components
    · intro same
      cases left : analyzer.analyze ⟨rest, []⟩
      cases right : analyzer.analyze ⟨rest.map Component.unnoted, []⟩
      rw [left, right] at same edges
      rw [Model.mk.injEq]
      exact ⟨same, edges.symm⟩
  rw [components, List.ext_getElem?_iff]
  apply forall_congr'
  intro position
  rw [components_analyze, components_analyze_unnoted]
  cases rest[position]? with
  | none => simp
  | some component => simp

variable (distinct : (rest.map Component.id).Nodup)

include distinct

/-- Into components without children and parent the analysis writes those that they have. -/
theorem annotates_unnoted (position : Nat) (component : Component) :
    analyzer.Annotates rest position component.unnoted
      (component.unnoted.apply { writes := analyzer.notesAt rest position }) := by
  apply annotates_apply distinct
  · rw [Component.property?_unnoted, if_neg (by decide), if_pos rfl]
  · rw [Component.property?_unnoted, if_pos rfl]

/-- It makes no difference whether children and parents are taken away before the analysis just
if all of them are found again. -/
theorem analyze_eq_analyze_unnoted_iff :
    analyzer.analyze ⟨rest, []⟩ = analyzer.analyze ⟨rest.map Component.unnoted, []⟩ ↔
      analyzer.IsCurrent rest := by
  rw [analyze_eq_analyze_unnoted_iff_forall]
  refine forall₃_congr fun position component _ => ?_
  let clean := component.unnoted.apply { writes := analyzer.notesAt rest position }
  have annotates : analyzer.Annotates rest position component.unnoted clean :=
    annotates_unnoted distinct position component
  have emptied : clean.property? childrenProperty = none ↔
      ¬∃ inner, (position, inner) ∈ analyzer.keptOf rest := by
    rw [annotates.childless, not_exists]
  have free : clean.property? parentProperty = none ↔
      ¬∃ outer, Nests rest outer position := by
    rw [← annotates.contained, Option.not_isSome_iff_eq_none]
  rw [Component.apply_eq_apply_unnoted_iff]
  constructor
  · intro absent
    refine ⟨?_, ?_⟩
    · intro listed
      by_contra nothing
      exact listed (absent _ (emptied.mpr nothing))
    · intro named
      by_contra nothing
      exact named (absent _ (free.mpr nothing))
  · rintro ⟨listed, named⟩ name nothing
    by_cases isChildren : name = childrenProperty
    · subst isChildren
      exact not_not.mp (mt listed (emptied.mp nothing))
    · by_cases isParent : name = parentProperty
      · subst isParent
        exact not_not.mp (mt named (free.mp nothing))
      · rw [annotates.others name isChildren isParent, Component.property?_unnoted,
          if_neg isParent, if_neg isChildren] at nothing
        exact nothing

end

/-! ## What is left of a model -/

section

variable {analyzer} {model : Model} (shown : analyzer.IsShownIn model)
variable (distinct : (model.components.map Component.id).Nodup)
variable {rest : List Component} {place : ℕ ↪o ℕ}
variable (placed : ∀ position, rest[position]? = model.components[place position]?)
variable {position : Nat} {before : Component} (present : rest[position]? = some before)

include placed present distinct

theorem eq_place_of_id_eq {other : Nat} (inside : other < model.components.length)
    (same : before.id = idAt model.components other) : other = place position := by
  rw [placed] at present
  have within : place position < model.components.length :=
    (List.getElem?_eq_some_iff.mp present).1
  apply idAt_injective distinct inside within
  rw [← same, idAt, present]
  rfl

include shown

/-- A component that nothing holds any more names a parent that is gone. -/
theorem IsShownIn.exists_parent_gone (free : ∀ outer, ¬Nests rest outer position)
    {outer : String} (nested : NestsById model.components outer before.id) :
    ∃ id, before.property? parentProperty = some (.text id) ∧
      NestsById model.components id before.id ∧ id ∉ rest.map Component.id := by
  obtain ⟨outerPlace, innerPlace, around, _, same⟩ := nested
  obtain rfl := eq_place_of_id_eq distinct placed present around.lt.2 same
  obtain ⟨parent, isParent⟩ := exists_isParent_iff.mpr ⟨outerPlace, around⟩
  rw [placed] at present
  refine ⟨idAt model.components parent, ?_, ⟨parent, place position, isParent.1, rfl, same⟩, ?_⟩
  · exact shown.parent (place position) before present parent isParent
  · exact idAt_notMem_of_free placed distinct free isParent.1

/-- A container in which nothing is kept any more lists children that are gone. -/
theorem IsShownIn.exists_children_gone
    (emptied : ∀ inner, (position, inner) ∉ analyzer.keptOf rest)
    {inner : String} (kept : analyzer.KeepsById model.components before.id inner) :
    ∃ ids, ids ≠ [] ∧ before.property? childrenProperty = some (Value.ofTexts ids) ∧
      ∀ id ∈ ids, analyzer.KeepsById model.components before.id id ∧
        id ∉ rest.map Component.id := by
  obtain ⟨outerPlace, innerPlace, listed, same, _⟩ := kept
  have inside := (nests_of_mem_keptOf listed).lt.1
  obtain rfl := eq_place_of_id_eq distinct placed present inside same
  let contents := contentsOf (analyzer.keptOf model.components) (place position)
  have any : contents.map (idAt model.components) ≠ [] :=
    List.ne_nil_of_mem (List.mem_map_of_mem (mem_contentsOf_iff.mpr listed))
  rw [placed] at present
  refine ⟨contents.map (idAt model.components), any, ?_, ?_⟩
  · exact shown.children (place position) before present _ rfl any
  · intro id member
    obtain ⟨child, childListed, rfl⟩ := List.mem_map.mp member
    have childKept := mem_contentsOf_iff.mp childListed
    exact ⟨⟨place position, child, childKept, same, rfl⟩,
      idAt_notMem_of_emptied placed distinct emptied childKept⟩

theorem IsShownIn.renews (distinctRest : (rest.map Component.id).Nodup) :
    analyzer.Renews model.components rest position before
      (before.apply { writes := analyzer.notesAt rest position })
      (before.unnoted.apply { writes := analyzer.notesAt rest position }) := by
  have annotates : analyzer.Annotates rest position before.unnoted _ :=
    annotates_unnoted distinctRest position before
  have written := before.property?_apply_unnoted (analyzer.notesAt rest position)
  refine ⟨annotates, rfl, written, ?_, ?_⟩
  · rintro nothing ⟨outer, nested⟩
    have free : ∀ other, ¬Nests rest other position := by
      rw [← not_exists, ← annotates.contained, nothing]
      exact Bool.false_ne_true
    rw [written, nothing, Option.none_or]
    exact shown.exists_parent_gone distinct placed present free nested
  · rintro nothing ⟨inner, kept⟩
    have emptied := annotates.childless.mp nothing
    rw [written, nothing, Option.none_or]
    exact shown.exists_children_gone distinct placed present emptied kept

end

section

variable {analyzer} {model : Model} (distinct : (model.components.map Component.id).Nodup)
variable {rest : List Component}
variable (remaining : rest.Sublist (analyzer.analyze model).components)

include distinct

theorem nodup_ids_analyze :
    ((analyzer.analyze model).components.map Component.id).Nodup := by
  rwa [Component.map_id_of_map_outline (analyzer.outline_analyze model)]

include remaining

theorem exists_renews {position : Nat} {before : Component}
    (present : rest[position]? = some before) :
    ∃ after clean, (analyzer.analyze ⟨rest, []⟩).components[position]? = some after ∧
      (analyzer.analyze ⟨rest.map Component.unnoted, []⟩).components[position]? = some clean ∧
      analyzer.Renews (analyzer.analyze model).components rest position before after clean := by
  have distinctAnalysed : ((analyzer.analyze model).components.map Component.id).Nodup :=
    nodup_ids_analyze distinct
  have distinctRest : (rest.map Component.id).Nodup :=
    distinctAnalysed.sublist (remaining.map Component.id)
  have shown := analyzer.isShownIn_analyze model
  obtain ⟨place, placed⟩ := List.sublist_iff_exists_orderEmbedding_getElem?_eq.mp remaining
  refine ⟨_, _, ?_, ?_, shown.renews distinctAnalysed placed present distinctRest⟩
  · rw [components_analyze, present]
    rfl
  · rw [components_analyze_unnoted, present]
    rfl

end

/-- If components are taken out of an analysed model, then the next analysis finds what it would
find without the children and the parents of the analysis before, and it leaves those that it
does not find again: they name what has been taken out. -/
theorem analyze_remaining (analyzer : ContainmentAnalyzer) (model : Model)
    (distinct : (model.components.map Component.id).Nodup) {rest : List Component}
    (remaining : rest.Sublist (analyzer.analyze model).components) :
    let again := analyzer.analyze ⟨rest, []⟩
    let clean := analyzer.analyze ⟨rest.map Component.unnoted, []⟩
    again.relationships = clean.relationships ∧
      again.components.length = rest.length ∧ clean.components.length = rest.length ∧
      (again = clean ↔ analyzer.IsCurrent rest) ∧
      ∀ position before, rest[position]? = some before →
        ∃ after renewed, again.components[position]? = some after ∧
          clean.components[position]? = some renewed ∧
          analyzer.Renews (analyzer.analyze model).components rest position before
            after renewed := by
  intro again clean
  have distinctRest : (rest.map Component.id).Nodup :=
    (nodup_ids_analyze distinct).sublist (remaining.map Component.id)
  refine ⟨(analyzer.relationships_analyze_unnoted rest).symm, analyzer.length_analyze _,
    (analyzer.length_analyze _).trans (List.length_map _),
    analyze_eq_analyze_unnoted_iff distinctRest, ?_⟩
  intro position before present
  exact exists_renews distinct remaining present

/-- Two of three boxes, each in the one before, as an analysis of all three has left them. -/
def nestedTwoLeft : List Component :=
  ((default : ContainmentAnalyzer).analyze nestedThrice).components.drop 1

theorem outline_nestedTwoLeft : nestedTwoLeft.map Component.outline =
    (nestedThrice.components.drop 1).map Component.outline := by
  rw [nestedTwoLeft, List.map_drop, outline_analyze, List.map_drop]

theorem nests_nestedTwoLeft_iff {outer inner : Nat} :
    Nests nestedTwoLeft outer inner ↔ Nests (nestedThrice.components.drop 1) outer inner := by
  rw [nests_eq_of_map_outline outline_nestedTwoLeft]

theorem exists_nestedTwoLeft_eq : ∃ middle inner : Component,
    nestedTwoLeft = [middle, inner] ∧ middle.id = "middle" := by
  have ids : nestedTwoLeft.map Component.id = ["middle", "inner"] :=
    Component.map_id_of_map_outline outline_nestedTwoLeft
  obtain ⟨middle, rest, left, middleId, others⟩ := List.map_eq_cons_iff.mp ids
  obtain ⟨inner, rfl, _⟩ := List.map_eq_singleton_iff.mp others
  exact ⟨middle, inner, left, middleId⟩

theorem not_nests_nestedTwoLeft (outer : Nat) : ¬Nests nestedTwoLeft outer 0 := by
  rw [nests_nestedTwoLeft_iff]
  intro nested
  have free : ∀ other < 2, ¬Nests (nestedThrice.components.drop 1) other 0 := by decide
  exact free outer nested.lt.1 nested

theorem nestsById_nestedThrice :
    NestsById ((default : ContainmentAnalyzer).analyze nestedThrice).components
      "outer" "middle" := by
  refine ⟨0, 1, ?_, ?_, ?_⟩
  · rw [nests_analyze]
    decide
  · rw [idAt_analyze]
    rfl
  · rw [idAt_analyze]
    rfl

/-- The outer box has been taken out, and the middle one still names it. -/
theorem Renews.parent_nestedTwoLeft {before after clean : Component}
    (renews : (default : ContainmentAnalyzer).Renews
      ((default : ContainmentAnalyzer).analyze nestedThrice).components nestedTwoLeft 0
      before after clean)
    (middle : before.id = "middle") :
    clean.property? parentProperty = none ∧
      ∃ id ∉ nestedTwoLeft.map Component.id,
        after.property? parentProperty = some (.text id) := by
  have nothing : clean.property? parentProperty = none := by
    rw [← Option.not_isSome_iff_eq_none, renews.annotates.contained]
    exact not_exists.mpr not_nests_nestedTwoLeft
  have nested := nestsById_nestedThrice
  rw [← middle] at nested
  obtain ⟨id, named, _, gone⟩ := renews.staleParent nothing ⟨"outer", nested⟩
  exact ⟨nothing, id, gone, named⟩

theorem analyze_remaining_nestedTwoLeft :
    let analyzer : ContainmentAnalyzer := default
    let again := analyzer.analyze ⟨nestedTwoLeft, []⟩
    let ids := nestedTwoLeft.map Component.id
    (nestedThrice.components.map Component.id).Nodup ∧
      nestedTwoLeft.Sublist (analyzer.analyze nestedThrice).components ∧
      (∃ middle, again.components[0]? = some middle ∧
        ∃ id ∉ ids, middle.property? parentProperty = some (.text id)) ∧
      ∃ inner, again.components[1]? = some inner ∧
        ∃ id ∈ ids, inner.property? parentProperty = some (.text id) := by
  intro analyzer again ids
  have distinct : (nestedThrice.components.map Component.id).Nodup := by decide
  have remaining : nestedTwoLeft.Sublist (analyzer.analyze nestedThrice).components :=
    List.drop_sublist 1 _
  obtain ⟨_, _, _, _, components⟩ := analyze_remaining analyzer nestedThrice distinct remaining
  obtain ⟨middle, inner, left, middleId⟩ := exists_nestedTwoLeft_eq
  refine ⟨distinct, remaining, ?_, ?_⟩
  · obtain ⟨after, _, present, _, renews⟩ := components 0 middle (by rw [left]; rfl)
    exact ⟨after, present, (renews.parent_nestedTwoLeft middleId).2⟩
  · obtain ⟨after, clean, present, _, renews⟩ := components 1 inner (by rw [left]; rfl)
    have nested : Nests nestedTwoLeft 0 1 := nests_nestedTwoLeft_iff.mpr (by decide)
    obtain ⟨value, named⟩ :=
      Option.isSome_iff_exists.mp (renews.annotates.contained.mpr ⟨0, nested⟩)
    obtain ⟨outer, isParent, rfl⟩ := (renews.annotates.parent value).mp named
    refine ⟨after, present, idAt nestedTwoLeft outer, ?_, ?_⟩
    · have inside := isParent.1.lt.1
      rw [idAt, List.getElem?_eq_getElem inside]
      exact List.mem_map_of_mem (List.getElem_mem inside)
    · rw [renews.written, named]
      rfl

/-- Children and parents of the analysis before may make a difference to the next one. -/
theorem analyze_remaining_not_unnoted :
    ¬∀ (analyzer : ContainmentAnalyzer) (model : Model) (rest : List Component),
      (model.components.map Component.id).Nodup →
        rest.Sublist (analyzer.analyze model).components →
          ∀ (position : Nat) (after clean : Component),
            (analyzer.analyze ⟨rest, []⟩).components[position]? = some after →
              (analyzer.analyze ⟨rest.map Component.unnoted, []⟩).components[position]? =
                some clean →
                after.property? childrenProperty = clean.property? childrenProperty ∧
                  after.property? parentProperty = clean.property? parentProperty := by
  intro forgotten
  have distinct : (nestedThrice.components.map Component.id).Nodup := by decide
  have remaining : nestedTwoLeft.Sublist
      ((default : ContainmentAnalyzer).analyze nestedThrice).components :=
    List.drop_sublist 1 _
  obtain ⟨middle, inner, left, middleId⟩ := exists_nestedTwoLeft_eq
  have present : nestedTwoLeft[0]? = some middle := by
    rw [left]
    rfl
  obtain ⟨after, clean, again, unnoted, renews⟩ := exists_renews distinct remaining present
  obtain ⟨nothing, id, _, named⟩ := renews.parent_nestedTwoLeft middleId
  obtain ⟨_, same⟩ := forgotten _ _ _ distinct remaining 0 after clean again unnoted
  rw [named, nothing] at same
  cases same

end ContainmentAnalyzer

end ScreenSight
