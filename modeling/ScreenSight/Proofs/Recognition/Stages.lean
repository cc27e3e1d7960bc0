import ScreenSight.Proofs.Containment.Hierarchy
import ScreenSight.Proofs.Failure
import ScreenSight.Recognition.Processor

/-!
# The stages of a pass

Each stage sees only a part of the components.  Patterns see views, which do not
show types or properties; the checks on the input see the ids and the boxes; link
rules see ids, types and boxes.
-/

namespace ScreenSight

open Hunt

namespace Processor

/-! ## Classification -/

/-- What the patterns decide about a component, or why they could not. -/
structure Verdict where
  edit : Edit
  outcome : Outcome
  failure : Option Failure := none

/-- What the patterns decide about whatever gives a view. -/
def verdict (processor : Processor) (view : ComponentView) : Verdict :=
  match processor.matcher.candidates processor.registry view,
      Matcher.extract processor.registry view with
  | .error failure, _ => ⟨{}, .failed failure.message, some failure⟩
  | .ok _, .error failure => ⟨{}, .failed failure.message, some failure⟩
  | .ok [], .ok extracted =>
      ⟨{ writes := Component.storeAllWrites extracted }, .unmatched, none⟩
  | .ok (found :: _), .ok extracted =>
      ⟨(Component.classifyEdit found).andWrite (Component.storeAllWrites extracted),
        .matched found.pattern found.componentType found.confidence, none⟩

/-- The verdicts that there are: a failure, which edits nothing, no match, and the match
of the first candidate. -/
theorem verdict_cases (processor : Processor) (view : ComponentView) :
    (∃ failure, processor.verdict view = ⟨{}, .failed failure.message, some failure⟩) ∨
    (∃ writes, processor.matcher.candidates processor.registry view = .ok [] ∧
      processor.verdict view = ⟨⟨none, writes⟩, .unmatched, none⟩) ∨
    ∃ (found : PatternMatch) (rest : List PatternMatch) (writes : _),
      processor.matcher.candidates processor.registry view = .ok (found :: rest) ∧
      processor.verdict view = ⟨⟨some found.componentType, writes⟩,
        .matched found.pattern found.componentType found.confidence, none⟩ := by
  rw [verdict]
  cases processor.matcher.candidates processor.registry view with
  | error failure => exact .inl ⟨failure, rfl⟩
  | ok candidates =>
      cases Matcher.extract processor.registry view with
      | error failure => exact .inl ⟨failure, rfl⟩
      | ok extracted =>
          right
          cases candidates with
          | nil => exact .inl ⟨_, rfl, rfl⟩
          | cons found rest => exact .inr ⟨found, rest, _, rfl, rfl⟩

/-- A component is edited and recorded by the verdict on its view. -/
theorem classify_eq (processor : Processor) (grid : Grid) (component : Component) :
    processor.classify grid component =
      { component := component.apply (processor.verdict (grid.view component)).edit
        classification :=
          ⟨component.id, (processor.verdict (grid.view component)).outcome,
            Matcher.tracks processor.registry (grid.view component)⟩
        scent := (processor.verdict (grid.view component)).failure.map fun failure =>
          ⟨.matchComponents, component.id, failure.message⟩ } := by
  rw [classify, applyBest, verdict]
  cases processor.matcher.candidates processor.registry (grid.view component) with
  | error failure => rfl
  | ok candidates =>
      cases Matcher.extract processor.registry (grid.view component) with
      | error failure => rfl
      | ok extracted =>
          cases candidates with
          | nil =>
              simp only [bind, Except.bind, pure, Except.pure, List.head?_nil,
                Component.storeAll_eq, Option.map_none]
          | cons found rest =>
              simp only [bind, Except.bind, pure, Except.pure, List.head?_cons,
                Component.classifyBy_eq, Component.storeAll_eq,
                Component.apply_andWrite, Option.map_none]

theorem view_outline (grid : Grid) (component : Component) :
    grid.view component.outline = grid.view component := rfl

/-- Views do not show what edits change. -/
theorem view_apply (grid : Grid) (component : Component) (edit : Edit) :
    grid.view (component.apply edit) = grid.view component := rfl

theorem classification_outline (processor : Processor) (grid : Grid)
    (component : Component) :
    (processor.classify grid component.outline).classification =
      (processor.classify grid component).classification := by
  rw [classify_eq, classify_eq, view_outline]
  rfl

theorem scent_outline (processor : Processor) (grid : Grid) (component : Component) :
    (processor.classify grid component.outline).scent =
      (processor.classify grid component).scent := by
  rw [classify_eq, classify_eq, view_outline]
  rfl

theorem classifications_outline (processor : Processor) (grid : Grid)
    (components : List Component) :
    ((components.map Component.outline).map (processor.classify grid)).map
        Classified.classification =
      (components.map (processor.classify grid)).map Classified.classification := by
  rw [List.map_map, List.map_map, List.map_map]
  exact List.map_congr_left fun component _ => processor.classification_outline grid component

theorem scents_outline (processor : Processor) (grid : Grid)
    (components : List Component) :
    ((components.map Component.outline).map (processor.classify grid)).filterMap
        Classified.scent =
      (components.map (processor.classify grid)).filterMap Classified.scent := by
  rw [List.map_map, List.filterMap_map, List.filterMap_map]
  exact List.filterMap_congr fun component _ => processor.scent_outline grid component

/-! ## Checks -/

theorem outliers_outline (grid : Grid) (components : List Component) :
    outliers grid (components.map Component.outline) = outliers grid components := by
  rw [outliers, List.flatMap_map]
  rfl

theorem validate_outline (grid : Grid) (components : List Component) :
    validate grid (components.map Component.outline) = validate grid components := by
  rw [validate, outliers_outline, validate, Model.duplicateIds, List.map_map]
  rfl

end Processor

/-! ## Relationships -/

namespace Matcher

private def bareBoxed (entry : Component × Box) : Component × Box :=
  (entry.1.bare, entry.2)

private theorem boxed_bare (components : List Component) :
    boxed (components.map Component.bare) = (boxed components).map bareBoxed := by
  rw [boxed, boxed, List.filterMap_map, List.map_filterMap]
  apply List.filterMap_congr
  intro component _
  change component.effectiveBox.map (fun box => (component.bare, box)) =
    (component.effectiveBox.map fun box => (component, box)).map bareBoxed
  rw [Option.map_map]
  rfl

private theorem linked_bare (link : LinkRule) (entries : List (Component × Box)) :
    linked link (entries.map bareBoxed) = linked link entries := by
  rw [linked, linked, List.zipIdx_map, List.flatMap_map]
  simp only [List.filterMap_map]
  rfl

/-- Link rules do not see properties. -/
theorem relationships_bare (registry : Registry) (components : List Component) :
    relationships registry (components.map Component.bare) =
      relationships registry components := by
  rw [relationships, relationships, boxed_bare]
  simp only [linked_bare]

end Matcher

namespace Processor

/-- What the analysis of containment writes into the component at a position, if
there is one. -/
def notesAt (processor : Processor) (components : List Component) (position : Nat) :
    List (String × Value) :=
  match processor.containment with
  | some analyzer => analyzer.notesAt components position
  | none => []

/-- The pairs that become edges of containment. -/
def keptOf (processor : Processor) (components : List Component) : List (Nat × Nat) :=
  match processor.containment with
  | some analyzer => analyzer.keptOf components
  | none => []

/-- Relating components keeps what link rules find, adds the edges of
containment, and writes notes. -/
theorem relate_eq (processor : Processor) (components : List Component) :
    processor.relate components =
      { components := components.mapIdx fun position component =>
          component.apply { writes := processor.notesAt components position }
        relationships :=
          (Containment.edgesOf (Containment.idAt components)
            (processor.keptOf components)).foldl Containment.addEdge
              (Matcher.relationships processor.registry components) } := by
  rw [relate]
  simp only [notesAt, keptOf]
  cases processor.containment with
  | none =>
      have untouched : components.mapIdx (fun _ component => component) = components := by
        apply List.ext_getElem?
        intro position
        rw [List.getElem?_mapIdx, Option.map_id']
      simp only [Component.apply_nothing, untouched]
      rfl
  | some analyzer => exact analyzer.analyze_eq _

theorem notesAt_outline (processor : Processor) (components : List Component) :
    processor.notesAt (components.map Component.outline) =
      processor.notesAt components := by
  funext position
  simp only [notesAt, ContainmentAnalyzer.notesAt_outline]

theorem keptOf_outline (processor : Processor) (components : List Component) :
    processor.keptOf (components.map Component.outline) = processor.keptOf components := by
  simp only [keptOf, ContainmentAnalyzer.keptOf_outline]

/-- The relationships do not show properties. -/
theorem relate_relationships_bare (processor : Processor) (components : List Component) :
    (processor.relate (components.map Component.bare)).relationships =
      (processor.relate components).relationships := by
  have same : (components.map Component.bare).map Component.outline =
      components.map Component.outline := by
    rw [List.map_map]
    rfl
  have ids : Containment.idAt (components.map Component.bare) =
      Containment.idAt components := by
    rw [← Containment.idAt_outline, same, Containment.idAt_outline]
  have kept : processor.keptOf (components.map Component.bare) =
      processor.keptOf components := by
    rw [← keptOf_outline, same, keptOf_outline]
  simp only [relate_eq, ids, kept, Matcher.relationships_bare]

/-! ## Publication -/

/-- The components after classification. -/
def classified (processor : Processor) (grid : Grid) (components : List Component) :
    List Component :=
  (components.map (processor.classify grid)).map Classified.component

/-- What a pass on valid components publishes. -/
def published (processor : Processor) (grid : Grid) (components : List Component)
    (scents : List Scent) (context : Context) : Context :=
  { context with
    components := some (processor.relate (processor.classified grid components)).components
    relationships := (processor.relate (processor.classified grid components)).relationships
    classification :=
      (components.map (processor.classify grid)).map Classified.classification
    scents :=
      scents ++ (components.map (processor.classify grid)).filterMap Classified.scent }

theorem length_relate (processor : Processor) (components : List Component) :
    (processor.relate components).components.length = components.length := by
  rw [relate_eq, List.length_mapIdx]

theorem gridOf_eq_ok_iff {given : Option Grid} {context : Context} {grid : Grid} :
    gridOf given context = .ok grid ↔ given.or context.grid = some grid := by
  rw [gridOf]
  cases given.or context.grid <;> simp

theorem gridOf_eq_error {given : Option Grid} {context : Context} {failure : Failure}
    (missing : gridOf given context = .error failure) :
    ∃ message, failure = .validation message := by
  rw [gridOf] at missing
  cases supplied : given.or context.grid with
  | some grid =>
      rw [supplied] at missing
      cases missing
  | none =>
      rw [supplied] at missing
      cases missing
      exact ⟨_, rfl⟩

theorem validate_eq_error {grid : Grid} {components : List Component} {failure : Failure}
    (invalid : validate grid components = .error failure) :
    ∃ message, failure = .validation message := by
  rw [validate] at invalid
  split at invalid
  · cases invalid
  · cases invalid
    exact ⟨_, rfl⟩
  · cases invalid
    exact ⟨_, rfl⟩

theorem takeComponents_of_valid {grid : Grid} {context : Context}
    {components : List Component} (present : context.components = some components)
    (valid : validate grid components = .ok ()) :
    takeComponents grid context = (.ok components, { context with components := none }) := by
  simp only [takeComponents, present, valid]

/-- Components that are not valid stay in the context: a list that was taken out has
been put back. -/
theorem takeComponents_cases (grid : Grid) (context : Context) :
    (∃ components, context.components = some components ∧
      validate grid components = .ok ()) ∨
    ∃ message, takeComponents grid context = (.error (.validation message), context) := by
  cases present : context.components with
  | none =>
      right
      exact ⟨_, by rw [takeComponents, present]⟩
  | some components =>
      cases checked : validate grid components with
      | ok => exact .inl ⟨components, rfl, checked⟩
      | error failure =>
          right
          obtain ⟨message, rfl⟩ := validate_eq_error checked
          have restored : { context with components := some components } = context := by
            rw [← present]
          refine ⟨message, ?_⟩
          simp only [takeComponents, present, checked, restored]

/-- No component is lost on the way. -/
theorem guardCount_relate (processor : Processor) (grid : Grid)
    (components : List Component) :
    guardCount components.length
      (processor.relate (processor.classified grid components)).components = .ok () := by
  rw [guardCount, Failure.trap_eq_ok_iff, length_relate, classified, List.length_map,
    List.length_map, beq_self_eq_true]

theorem publish_of_valid (processor : Processor) (scents : List Scent)
    {given : Option Grid} {context : Context} {grid : Grid} {components : List Component}
    (found : given.or context.grid = some grid)
    (present : context.components = some components)
    (valid : validate grid components = .ok ()) :
    processor.publish given context scents =
      (.ok (processor.relate (processor.classified grid components)).components,
        processor.published grid components scents context) := by
  have supplied : gridOf given context = .ok grid := gridOf_eq_ok_iff.mpr found
  have counted := processor.guardCount_relate grid components
  rw [classified] at counted
  simp only [publish, within, supplied, takeComponents_of_valid present valid, counted,
    Failure.mapError_ok]
  rfl

/-- What the stages behind loading can do: publish, if there are a grid and valid
components, or fail while components are matched and leave the context as it was. -/
theorem publish_cases (processor : Processor) (given : Option Grid) (context : Context)
    (scents : List Scent) :
    (∃ grid components, given.or context.grid = some grid ∧
      context.components = some components ∧ validate grid components = .ok () ∧
      processor.publish given context scents =
        (.ok (processor.relate (processor.classified grid components)).components,
          processor.published grid components scents context)) ∨
    ∃ message, processor.publish given context scents =
      (.error (.staged .matchComponents (.validation message)), context) := by
  cases supplied : gridOf given context with
  | error failure =>
      right
      obtain ⟨message, rfl⟩ := gridOf_eq_error supplied
      refine ⟨message, ?_⟩
      rw [publish, supplied]
      rfl
  | ok grid =>
      have found := gridOf_eq_ok_iff.mp supplied
      rcases takeComponents_cases grid context with
        ⟨components, present, valid⟩ | ⟨message, refused⟩
      · left
        exact ⟨grid, components, found, present, valid,
          processor.publish_of_valid scents found present valid⟩
      · right
        refine ⟨message, ?_⟩
        simp only [publish, within, supplied, refused, Failure.mapError_ok,
          Failure.mapError_error]
        rfl

/-! ## The whole pass -/

/-- A pass keeps the sources of its context. -/
theorem process_sources (processor : Processor) (given : Option Grid) (context : Context) :
    (processor.process given context).context.sources = context.sources := by
  rw [process]
  cases processor.load context.sources with
  | error failure => rfl
  | ok result =>
      obtain ⟨registry, scents⟩ := result
      simp only [within, Failure.mapError_ok]
      rcases publish_cases { processor with registry := registry } given context scents with
        ⟨grid, components, _, _, _, published⟩ | ⟨message, failed⟩
      · rw [published]
        rfl
      · rw [failed]

/-- A pass whose sources can be loaded keeps the loaded registry, whatever comes of
it. -/
theorem process_processor {processor : Processor} {given : Option Grid}
    {context : Context} {registry : Registry} {scents : List Scent}
    (loaded : processor.load context.sources = .ok (registry, scents)) :
    (processor.process given context).processor =
      { processor with registry := registry } := by
  rw [process, loaded]
  rfl

end Processor

end ScreenSight
