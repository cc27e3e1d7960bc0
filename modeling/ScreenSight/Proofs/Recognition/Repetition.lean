import ScreenSight.Proofs.Recognition.Loading
import ScreenSight.Proofs.Recognition.Stages

/-!
# Repeating a pass

A second pass works on components that the first one has classified and
annotated.  It sees the same views, ids and boxes, so it comes to the same edits,
and the edits have been made already.
-/

namespace ScreenSight

open Hunt

namespace Processor

variable (processor : Processor) (grid : Grid) (components : List Component)

/-- The components that a pass publishes for some valid ones. -/
def annotated : List Component :=
  (processor.relate (processor.classified grid components)).components

/-- What a pass does to the component at a position. -/
def passEdit (position : Nat) (component : Component) : Edit :=
  (processor.verdict (grid.view component)).edit.andWrite
    (processor.notesAt components position)

theorem classified_eq :
    processor.classified grid components = components.map fun component =>
      component.apply (processor.verdict (grid.view component)).edit := by
  rw [classified, List.map_map]
  apply List.map_congr_left
  intro component _
  rw [Function.comp_apply, classify_eq]

theorem outline_classified :
    (processor.classified grid components).map Component.outline =
      components.map Component.outline := by
  rw [classified_eq, List.map_map]
  rfl

theorem notesAt_classified :
    processor.notesAt (processor.classified grid components) =
      processor.notesAt components := by
  rw [← notesAt_outline, outline_classified, notesAt_outline]

/-- A pass makes one edit of each component. -/
theorem annotated_eq :
    processor.annotated grid components = components.mapIdx fun position component =>
      component.apply (processor.passEdit grid components position component) := by
  rw [annotated, relate_eq]
  simp only [notesAt_classified]
  apply List.ext_getElem?
  intro position
  rw [classified_eq, List.getElem?_mapIdx, List.getElem?_mapIdx, List.getElem?_map,
    Option.map_map]
  congr 1
  funext component
  exact Component.apply_andWrite component _ _

theorem getElem?_annotated (position : Nat) :
    (processor.annotated grid components)[position]? =
      components[position]?.map fun component =>
        component.apply (processor.passEdit grid components position component) := by
  rw [annotated_eq, List.getElem?_mapIdx]

theorem outline_annotated :
    (processor.annotated grid components).map Component.outline =
      components.map Component.outline := by
  apply List.ext_getElem?
  intro position
  rw [List.getElem?_map, getElem?_annotated, Option.map_map, List.getElem?_map]
  rfl

theorem notesAt_annotated :
    processor.notesAt (processor.annotated grid components) =
      processor.notesAt components := by
  rw [← notesAt_outline, outline_annotated, notesAt_outline]

/-- A second pass comes to the same edits, and they change nothing any more. -/
theorem annotated_annotated :
    processor.annotated grid (processor.annotated grid components) =
      processor.annotated grid components := by
  apply List.ext_getElem?
  intro position
  rw [getElem?_annotated, getElem?_annotated, Option.map_map]
  congr 1
  funext component
  have edits : processor.passEdit grid (processor.annotated grid components) position
      (component.apply (processor.passEdit grid components position component)) =
        processor.passEdit grid components position component := by
    rw [passEdit, notesAt_annotated, view_apply, passEdit]
  rw [Function.comp_apply, edits, Component.apply_apply]

/-- The components that a second pass relates have the types of the first one. -/
theorem bare_classified_annotated :
    (processor.classified grid (processor.annotated grid components)).map
        Component.bare =
      (processor.classified grid components).map Component.bare := by
  apply List.ext_getElem?
  intro position
  rw [classified_eq, classified_eq, List.map_map, List.map_map, List.getElem?_map,
    List.getElem?_map, getElem?_annotated, Option.map_map]
  congr 1
  funext component
  rw [Function.comp_apply, Function.comp_apply, Function.comp_apply, view_apply]
  exact Component.bare_apply_apply component _ _

/-- Publishing once more what has been published changes nothing. -/
theorem published_published (scents : List Scent) (context : Context) :
    processor.published grid (processor.annotated grid components) scents
        (processor.published grid components scents context) =
      processor.published grid components scents context := by
  have same := processor.annotated_annotated grid components
  rw [annotated] at same
  have related :
      (processor.relate (processor.classified grid
        (processor.annotated grid components))).relationships =
          (processor.relate (processor.classified grid components)).relationships := by
    rw [← relate_relationships_bare, bare_classified_annotated,
      relate_relationships_bare]
  have classifications :
      ((processor.annotated grid components).map (processor.classify grid)).map
        Classified.classification =
          (components.map (processor.classify grid)).map Classified.classification := by
    rw [← classifications_outline, outline_annotated, classifications_outline]
  have warnings :
      ((processor.annotated grid components).map (processor.classify grid)).filterMap
        Classified.scent =
          (components.map (processor.classify grid)).filterMap Classified.scent := by
    rw [← scents_outline, outline_annotated, scents_outline]
  simp only [published, same, related, classifications, warnings]
  rfl

variable {processor grid} {given : Option Grid} {context : Context}

/-- A pass succeeds if its sources can be loaded and it has a grid and valid
components. -/
theorem process_eq {listed : List Component} {registry : Registry} {scents : List Scent}
    (loaded : processor.load context.sources = .ok (registry, scents))
    (found : given.or context.grid = some grid)
    (present : context.components = some listed)
    (valid : validate grid listed = .ok ()) :
    processor.process given context =
      { result := .ok ({ processor with registry := registry }.annotated grid listed)
        processor := { processor with registry := registry }
        context := { processor with registry := registry }.published grid listed scents
          context } := by
  have published :=
    publish_of_valid { processor with registry := registry } scents found present valid
  rw [process, loaded]
  simp only [within, Failure.mapError_ok, published]
  rfl

/-- Otherwise it fails. -/
theorem of_process_ok {components : List Component}
    (succeeded : (processor.process given context).result = .ok components) :
    ∃ registry scents grid listed,
      processor.load context.sources = .ok (registry, scents) ∧
      given.or context.grid = some grid ∧ context.components = some listed ∧
      validate grid listed = .ok () := by
  rw [process] at succeeded
  cases loaded : processor.load context.sources with
  | error failure =>
      rw [loaded] at succeeded
      cases succeeded
  | ok result =>
      obtain ⟨registry, scents⟩ := result
      rw [loaded] at succeeded
      simp only [within, Failure.mapError_ok] at succeeded
      rcases publish_cases { processor with registry := registry } given context scents with
        ⟨grid, listed, found, present, valid, _⟩ | ⟨message, failed⟩
      · exact ⟨registry, scents, grid, listed, rfl, found, present, valid⟩
      · rw [failed] at succeeded
        cases succeeded

/-- A pass on what a pass of the same processor has published publishes it again. -/
theorem process_published {listed : List Component} {scents : List Scent}
    (loaded : processor.load context.sources = .ok (processor.registry, scents))
    (found : given.or context.grid = some grid) (valid : validate grid listed = .ok ()) :
    processor.process given (processor.published grid listed scents context) =
      { result := .ok (processor.annotated grid listed)
        processor := processor
        context := processor.published grid listed scents context } := by
  have reloaded : processor.load (processor.published grid listed scents context).sources =
      .ok (processor.registry, scents) := loaded
  have valid' : validate grid (processor.annotated grid listed) = .ok () := by
    rw [← validate_outline, outline_annotated, validate_outline, valid]
  have again := process_eq reloaded found rfl valid'
  rwa [← annotated, annotated_annotated, published_published] at again

/-- A pass on what a successful pass has left comes to the same end, if loading
the sources again leaves the registry as it was. -/
theorem process_process {components : List Component} {first second : PassEnd}
    (passed : processor.process given context = first)
    (succeeded : first.result = .ok components)
    (repeated : first.processor.process given first.context = second)
    (unchanged : second.processor.registry = first.processor.registry) :
    second.result = .ok components ∧ second.context = first.context ∧
      second.processor = first.processor := by
  rw [← passed] at succeeded
  obtain ⟨registry, scents, grid, listed, loaded, found, present, valid⟩ :=
    of_process_ok succeeded
  obtain ⟨_, reload⟩ := load_eq_ok loaded
  have reloaded : first.processor.load first.context.sources =
      .ok (registry.installAll (processor.interpreter.definitions context.sources),
        scents) := by
    rw [← passed, process_sources, process_processor loaded, reload]
  -- what the second load installs is what the first one has left
  have settled : registry.installAll (processor.interpreter.definitions context.sources) =
      registry := by
    rw [← repeated, process_processor reloaded, ← passed, process_processor loaded]
      at unchanged
    exact unchanged
  have loadedAgain : { processor with registry := registry }.load context.sources =
      .ok (registry, scents) := by
    rw [reload, settled]
  rw [process_eq loaded found present valid] at succeeded passed
  subst passed
  rw [process_published loadedAgain found valid] at repeated
  subst repeated
  exact ⟨succeeded, rfl, rfl⟩

/-- A source that recognises lists by their border. -/
def labelling : String :=
  "<hunt a:[INIT GATHER=\x7bparam tag:list=(val v)\x7d]><EXEC>"

/-- A component with a border of that kind. -/
def labelled : Context :=
  { components := some [{ id := "c", box := some (Box.ofCorners 0 0 2 2) }]
    sources := [labelling] }

theorem ordersOf_labelling :
    ordersOf {} [labelling] =
      some ([["a"], [], ["a"], []], [["a"], [], ["a"], []]) := by
  decide +kernel

theorem process_labelled :
    (({} : Processor).process (some (Grid.ofText "vvv\nv v\nvvv" 1)) labelled).result.map
        (fun components => components.map Component.kind) = .ok ["list"] := by
  decide +kernel

theorem process_process_labelled :
    ∃ first second components,
      ({} : Processor).process (some (Grid.ofText "vvv\nv v\nvvv" 1)) labelled = first ∧
      first.result = .ok components ∧ components.map Component.kind = ["list"] ∧
      first.processor.process (some (Grid.ofText "vvv\nv v\nvvv" 1)) first.context =
        second ∧
      second.processor.registry = first.processor.registry ∧
      second.result = .ok components ∧ second.context = first.context ∧
      second.processor = first.processor := by
  obtain ⟨registry, scents, loaded, reloaded⟩ := load_again_of_ordersOf ordersOf_labelling
  have labels := process_labelled
  generalize passed :
    ({} : Processor).process (some (Grid.ofText "vvv\nv v\nvvv" 1)) labelled = first at labels
  generalize repeated :
    first.processor.process (some (Grid.ofText "vvv\nv v\nvvv" 1)) first.context = second
  have kept : first.processor = { registry := registry } := by
    rw [← passed]
    exact process_processor loaded
  have sources : first.context.sources = [labelling] := by
    rw [← passed]
    exact process_sources _ _ _
  have unchanged : second.processor.registry = first.processor.registry := by
    rw [← repeated, kept, process_processor (sources ▸ reloaded)]
  cases succeeded : first.result with
  | error failure =>
      rw [succeeded] at labels
      cases labels
  | ok components =>
      rw [succeeded] at labels
      exact ⟨first, second, components, rfl, succeeded, Except.ok.inj labels, repeated,
        unchanged, process_process passed succeeded repeated unchanged⟩

end Processor

end ScreenSight
