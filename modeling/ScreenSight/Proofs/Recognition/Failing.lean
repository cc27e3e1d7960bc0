import ScreenSight.Proofs.Hunt.Interpreter
import ScreenSight.Proofs.Recognition.Repetition

/-!
# Passes that fail

A pass moves the components out of the context and exchanges the registry on the
way.  It can fail while sources are loaded, which touches neither, and while
components are matched, where the list goes back.  Behind that it cannot fail any
more: the guard at the end always holds.
-/

namespace ScreenSight

open Hunt
open Failure (FailsAs)

namespace Processor

variable {processor : Processor} {given : Option Grid} {context : Context}

theorem failsAs_loadInto (interpreter : Interpreter) (registry : Registry)
    (sources : List String) :
    FailsAs Interpreter.IsMalformed (loadInto interpreter registry sources) := by
  induction sources generalizing registry with
  | nil => exact FailsAs.ok _
  | cons source rest induction =>
      apply FailsAs.bind (interpreter.failsAs_interpret source registry)
      intro interpreted
      apply FailsAs.bind (induction interpreted.1)
      intro loaded
      exact FailsAs.ok _

/-- What a pass can do: fail while sources are loaded, fail while components are
matched, or publish. -/
theorem process_cases (processor : Processor) (given : Option Grid) (context : Context) :
    (∃ line column message,
      processor.load context.sources = .error (.malformedSource line column message) ∧
      processor.process given context =
        ⟨.error (.staged .load (.malformedSource line column message)), processor,
          context⟩) ∨
    (∃ registry scents message,
      processor.load context.sources = .ok (registry, scents) ∧
      processor.process given context =
        ⟨.error (.staged .matchComponents (.validation message)),
          { processor with registry := registry }, context⟩) ∨
    ∃ registry scents grid listed,
      processor.load context.sources = .ok (registry, scents) ∧
      context.components = some listed ∧
      processor.process given context =
        ⟨.ok ({ processor with registry := registry }.annotated grid listed),
          { processor with registry := registry },
          { processor with registry := registry }.published grid listed scents context⟩ := by
  cases loaded : processor.load context.sources with
  | error failure =>
      left
      obtain ⟨line, column, message, rfl⟩ :=
        failsAs_loadInto processor.interpreter processor.registry context.sources failure loaded
      refine ⟨line, column, message, rfl, ?_⟩
      rw [process, loaded]
      rfl
  | ok result =>
      right
      obtain ⟨registry, scents⟩ := result
      rcases publish_cases { processor with registry := registry } given context scents with
        ⟨grid, listed, found, present, valid, _⟩ | ⟨message, failed⟩
      · right
        exact ⟨registry, scents, grid, listed, rfl, present,
          process_eq loaded found present valid⟩
      · left
        refine ⟨registry, scents, message, rfl, ?_⟩
        rw [process, loaded]
        simp only [within, Failure.mapError_ok, failed]

theorem ids_annotated (processor : Processor) (grid : Grid) (components : List Component) :
    (processor.annotated grid components).map Component.id = components.map Component.id := by
  apply Component.map_id_of_map_outline
  exact processor.outline_annotated grid components

/-- No pass loses a component of its context. -/
theorem ids_process (processor : Processor) (given : Option Grid) (context : Context) :
    (processor.process given context).context.components.map (List.map Component.id) =
      context.components.map (List.map Component.id) := by
  rcases processor.process_cases given context with
    ⟨line, column, message, _, failed⟩ | ⟨registry, scents, message, _, failed⟩ |
      ⟨registry, scents, grid, listed, _, present, published⟩
  · rw [failed]
  · rw [failed]
  · rw [published, present]
    exact congrArg some ({ processor with registry := registry }.ids_annotated grid listed)

/-- A pass that fails leaves the context as it was.  It leaves the registry as it was
too if a source has a problem; else all sources have been loaded.  The guard at the
end of a pass never fails, so no pass loses its components. -/
theorem process_error (processor : Processor) (given : Option Grid) (context : Context) :
    (∀ failure, (processor.process given context).result = .error failure →
      (processor.process given context).context = context ∧
        ((∃ line column message,
            failure = .staged .load (.malformedSource line column message) ∧
            processor.load context.sources =
              .error (.malformedSource line column message) ∧
            (processor.process given context).processor = processor) ∨
          ∃ registry scents message,
            failure = .staged .matchComponents (.validation message) ∧
            processor.load context.sources = .ok (registry, scents) ∧
            (processor.process given context).processor =
              { processor with registry := registry })) ∧
      (∀ (loaded : Processor) (grid : Grid) (components : List Component),
        guardCount components.length
          (loaded.relate (loaded.classified grid components)).components = .ok ()) ∧
      (processor.process given context).context.components.map (List.map Component.id) =
        context.components.map (List.map Component.id) := by
  refine ⟨?_, guardCount_relate, processor.ids_process given context⟩
  intro failure failed
  rcases processor.process_cases given context with
    ⟨line, column, message, unloaded, outcome⟩ |
      ⟨registry, scents, message, loaded, outcome⟩ |
      ⟨registry, scents, grid, listed, _, _, outcome⟩
  · rw [outcome] at failed ⊢
    cases failed
    exact ⟨rfl, .inl ⟨line, column, message, rfl, unloaded, rfl⟩⟩
  · rw [outcome] at failed ⊢
    cases failed
    exact ⟨rfl, .inr ⟨registry, scents, message, rfl, loaded, rfl⟩⟩
  · rw [outcome] at failed
    cases failed

/-- A frame of three rows. -/
def frame : Grid :=
  Grid.ofText "vvv\nv v\nvvv" 1

/-- The second source breaks off. -/
def unfinished : Context :=
  { components := some [{ id := "c", box := some (Box.ofCorners 0 0 2 2) }]
    sources := [labelling, "<hunt b:"] }

/-- The component does not lie on the frame. -/
def misplaced : Context :=
  { components := some [{ id := "c", box := some (Box.ofCorners 0 0 3 2) }]
    sources := [labelling] }

private theorem process_unfinished :
    (({} : Processor).process (some frame) unfinished).result.map
        (fun components => components.map Component.id) =
      .error (.staged .load (.malformedSource 1 9 "expected `[`, found end of input")) := by
  decide +kernel

private theorem process_misplaced :
    (({} : Processor).process (some frame) misplaced).result.map
        (fun components => components.map Component.id) =
      .error (.staged .matchComponents (.validation
        ("component c box BoundingBox \x7b x1: 0, y1: 0, x2: 3, y2: 2 \x7d " ++
          "lies outside the 3x3 grid"))) := by
  decide +kernel

theorem process_error_unfinished_misplaced :
    ∃ early late,
      (({} : Processor).process (some frame) unfinished).result = .error early ∧
      early.stage? = some .load ∧
      (({} : Processor).process (some frame) unfinished).context = unfinished ∧
      (({} : Processor).process (some frame) unfinished).processor = {} ∧
      (({} : Processor).process (some frame) misplaced).result = .error late ∧
      late.stage? = some .matchComponents ∧
      (({} : Processor).process (some frame) misplaced).context = misplaced ∧
      namesOf (({} : Processor).process (some frame) misplaced).processor.registry =
        [["a"], [], ["a"], []] := by
  have early := Failure.map_eq_error_iff.mp process_unfinished
  have late := Failure.map_eq_error_iff.mp process_misplaced
  obtain ⟨kept, exit⟩ := (process_error {} _ unfinished).1 _ early
  obtain ⟨keptToo, exitToo⟩ := (process_error {} _ misplaced).1 _ late
  refine ⟨_, _, early, rfl, kept, ?_, late, rfl, keptToo, ?_⟩
  · rcases exit with ⟨_, _, _, _, _, same⟩ | ⟨_, _, _, otherStage, _⟩
    · exact same
    · cases otherStage
  · rcases exitToo with ⟨_, _, _, otherStage, _⟩ | ⟨registry, scents, _, _, loaded, same⟩
    · cases otherStage
    · obtain ⟨registry', _, _, loaded', _, _, names, _⟩ := of_ordersOf ordersOf_labelling
      rw [same]
      have agree := loaded.symm.trans loaded'
      cases agree
      exact names

end Processor

end ScreenSight
