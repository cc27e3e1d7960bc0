import ScreenSight.Proofs.Detection.Shapes
import ScreenSight.Proofs.Recognition.Repetition
import ScreenSight.Recognition.Report

/-!
# Recognition succeeds

What the standard pipeline finds passes the checks of a pass, so nothing can go wrong
behind the loading of sources.  Every component that was detected is classified.
-/

namespace ScreenSight

/-! ## Validation -/

theorem Model.repeatedIds_ne_nil {seen found ids : List String} (already : found ≠ []) :
    repeatedIds seen found ids ≠ [] := by
  induction ids generalizing seen found with
  | nil => exact already
  | cons id rest induction =>
      rw [repeatedIds]
      split
      · split
        · exact induction already
        · exact induction (List.append_ne_nil_of_left_ne_nil already _)
      · exact induction already

theorem Model.repeatedIds_eq_nil_iff {seen ids : List String} :
    repeatedIds seen [] ids = [] ↔ ids.Nodup ∧ ∀ id ∈ ids, id ∉ seen := by
  induction ids generalizing seen with
  | nil => simp [repeatedIds]
  | cons id rest induction =>
      rw [repeatedIds]
      by_cases repeated : id ∈ seen
      · simp only [List.contains_iff_mem, repeated, if_true, List.contains_nil,
          Bool.false_eq_true, if_false, List.nil_append]
        constructor
        · intro none
          exact absurd none (repeatedIds_ne_nil (List.cons_ne_nil _ _))
        · intro fresh
          exact absurd repeated (fresh.2 id List.mem_cons_self)
      · simp only [List.contains_iff_mem, repeated, if_false, induction, List.nodup_cons,
          List.mem_cons, not_or, forall_eq_or_imp, not_false_eq_true, true_and]
        constructor
        · rintro ⟨distinct, fresh⟩
          refine ⟨⟨fun again => (fresh id again).1 rfl, distinct⟩, fun other member => ?_⟩
          exact (fresh other member).2
        · rintro ⟨⟨new, distinct⟩, fresh⟩
          refine ⟨distinct, fun other member => ⟨?_, fresh other member⟩⟩
          rintro rfl
          exact new member

namespace Processor

theorem isOnGrid_iff {grid : Grid} {box : Box} :
    isOnGrid grid box = true ↔ box.Within grid.width grid.height := by
  have columns := box.left_toInt_le
  have rows := box.top_toInt_le
  have rightEnd := box.right.toInt_lt
  have bottomEnd := box.bottom.toInt_lt
  have cells : grid.isEmpty = true ↔ grid.width = 0 ∨ grid.height = 0 := by
    rw [Grid.isEmpty, Array.isEmpty_iff_size_eq_zero, grid.size_cells, Nat.mul_eq_zero]
  rw [isOnGrid, Grid.bounds]
  by_cases empty : grid.isEmpty = true
  · rw [if_pos empty]
    constructor
    · intro outside
      cases outside
    · intro within
      obtain ⟨left, right, top, bottom⟩ := within
      have extents := cells.mp empty
      omega
  · have extents := mt cells.mpr empty
    have wide : (Box.lastOf grid.width).toInt = min (grid.width - 1) 0x7FFFFFFF := by
      rw [Box.lastOf, Coordinate.toInt_saturate]
      omega
    have high : (Box.lastOf grid.height).toInt = min (grid.height - 1) 0x7FFFFFFF := by
      rw [Box.lastOf, Coordinate.toInt_saturate]
      omega
    have acrossOrder : (0 : Coordinate).toInt ≤ (Box.lastOf grid.width).toInt := by
      rw [wide, Int32.toInt_zero]
      omega
    have downOrder : (0 : Coordinate).toInt ≤ (Box.lastOf grid.height).toInt := by
      rw [high, Int32.toInt_zero]
      omega
    obtain ⟨left, right, top, bottom⟩ := Box.toInt_ofCorners_of_le acrossOrder downOrder
    rw [if_neg empty]
    simp only [Box.strictlyContains_iff, left, right, top, bottom, wide, high, Int32.toInt_zero]
    constructor
    · intro within
      constructor <;> omega
    · intro within
      obtain ⟨left, right, top, bottom⟩ := within
      omega

theorem outliers_eq_nil_iff {grid : Grid} {components : List Component} :
    outliers grid components = [] ↔ ∀ component ∈ components, component.LiesOn grid := by
  simp only [outliers, List.flatMap_eq_nil_iff, List.map_eq_nil_iff, List.filter_eq_nil_iff,
    Bool.not_eq_true', Bool.not_eq_false, isOnGrid_iff]
  rfl

/-- The checks of a pass accept components with different ids on the grid, and no
others. -/
theorem validate_eq_ok_iff {grid : Grid} {components : List Component} :
    validate grid components = .ok () ↔
      (components.map Component.id).Nodup ∧
        ∀ component ∈ components, component.LiesOn grid := by
  have ids : (Model.mk components []).duplicateIds = [] ↔
      (components.map Component.id).Nodup := by
    simp [Model.duplicateIds, Model.repeatedIds_eq_nil_iff]
  rw [← ids, ← outliers_eq_nil_iff, validate]
  split
  · next none inside => simp [none, inside]
  · next none outside => simp [none, outside]
  · next inside outside =>
      simp only [reduceCtorEq, false_iff, not_and]
      exact inside

theorem validate_standard (grid : Grid) :
    validate grid (Pipeline.standard.detect grid) = .ok () :=
  validate_eq_ok_iff.mpr
    ⟨Pipeline.standard.nodup_ids grid, fun _ => Pipeline.liesOn_standard⟩

/-! ## Recognition -/

/-- Settings without a problem make a processor that knows no patterns yet. -/
theorem ofSettings_of_valid {settings : Settings} (valid : settings.validate = .ok ()) :
    ∃ processor, ofSettings settings = .ok processor ∧
      processor.registry = Hunt.Registry.empty ∧
      processor.interpreter = Hunt.Interpreter.ofSettings settings.matching := by
  have positive : 0 < settings.cellSize := by
    by_contra none
    have problem : settings.problem? = some .noCellSize := if_pos (by omega)
    rw [Settings.validate, problem] at valid
    cases valid
  simp only [ofSettings, valid, ContainmentAnalyzer.ofSettings, dif_pos positive]
  split <;> exact ⟨_, rfl, rfl, rfl⟩

/-- A pass records its components in their order. -/
theorem ids_classification (processor : Processor) (grid : Grid) (components : List Component) :
    ((components.map (processor.classify grid)).map Classified.classification).map
      Classification.id = components.map Component.id := by
  simp only [List.map_map]
  apply List.map_congr_left
  intro component _
  exact congrArg (fun classified => classified.classification.id)
    (classify_eq processor grid component)

end Processor

/-- The context that a grid is recognised in. -/
def Context.detected (grid : Grid) (sources : List String) : Context :=
  { Context.ofComponents (Pipeline.standard.detect grid) with sources := sources }

theorem recognize_eq {grid : Grid} {sources : List String} {settings : Settings}
    {processor after : Processor} {components : List Component} {context : Context}
    (made : Processor.ofSettings settings = .ok processor)
    (passed : processor.process (some grid) (Context.detected grid sources) =
      ⟨.ok components, after, context⟩) :
    recognize grid sources settings =
      .ok ⟨grid.width, grid.height, components, context.relationships, context.classification,
        context.scents⟩ := by
  have outcome : recognize grid sources settings = (do
      let processor ← Processor.ofSettings settings
      let pass := processor.process (some grid) (Context.detected grid sources)
      let components ← pass.result
      return ⟨grid.width, grid.height, components, pass.context.relationships,
        pass.context.classification, pass.context.scents⟩) := rfl
  simp only [outcome, made, passed, bind, Except.bind, pure, Except.pure]

/-- Recognition succeeds on every grid with all sources that can be loaded. -/
theorem recognize_standard (grid : Grid) :
    ((Pipeline.standard.detect grid).map Component.id).Nodup ∧
      (∀ component ∈ Pipeline.standard.detect grid, component.LiesOn grid) ∧
      Processor.validate grid (Pipeline.standard.detect grid) = .ok () ∧
      ∀ (settings : Settings) (sources : List String) (registry : Hunt.Registry)
        (scents : List Scent),
        settings.validate = .ok () →
        Processor.loadInto (Hunt.Interpreter.ofSettings settings.matching) Hunt.Registry.empty
          sources = .ok (registry, scents) →
        ∃ report, recognize grid sources settings = .ok report ∧
          report.classification.map Classification.id =
            (Pipeline.standard.detect grid).map Component.id := by
  have valid := Processor.validate_standard grid
  refine ⟨Pipeline.standard.nodup_ids grid, fun _ => Pipeline.liesOn_standard, valid, ?_⟩
  intro settings sources registry scents accepted loaded
  obtain ⟨processor, made, unused, interpreter⟩ := Processor.ofSettings_of_valid accepted
  have loads : processor.load (Context.detected grid sources).sources =
      .ok (registry, scents) := by
    rw [Processor.load, unused, interpreter]
    exact loaded
  have given : (some grid).or (Context.detected grid sources).grid = some grid := rfl
  have passed := Processor.process_eq loads given rfl valid
  exact ⟨_, recognize_eq made passed,
    Processor.ids_classification { processor with registry := registry } grid _⟩

/-- A frame around a button. -/
def boxedButton : Grid :=
  Grid.ofText "+-----+\n| [x] |\n+-----+" 1

theorem recognize_standard_boxedButton :
    ∃ registry scents report,
      ({} : Settings).validate = .ok () ∧
      Processor.loadInto (Hunt.Interpreter.ofSettings {}) Hunt.Registry.empty
        [Processor.labelling] = .ok (registry, scents) ∧
      recognize boxedButton [Processor.labelling] {} = .ok report ∧
      report.classification.map Classification.id =
        (Pipeline.standard.detect boxedButton).map Component.id ∧
      (Pipeline.standard.detect boxedButton).map
          (fun component => (component.id, component.effectiveBox)) =
        [("frame_1", some (Box.ofCorners 0 0 6 2)),
          ("bracket_1", some (Box.ofCorners 2 1 4 1))] := by
  obtain ⟨registry, scents, loaded, _⟩ :=
    Processor.load_again_of_ordersOf Processor.ordersOf_labelling
  have valid : ({} : Settings).validate = .ok () := by decide +kernel
  obtain ⟨report, recognized, classified⟩ :=
    (recognize_standard boxedButton).2.2.2 {} [Processor.labelling] registry scents valid loaded
  refine ⟨registry, scents, report, valid, loaded, recognized, classified, ?_⟩
  rw [Pipeline.standard_eq]
  decide +kernel

end ScreenSight
