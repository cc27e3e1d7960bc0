import Mathlib.Data.List.Nodup
import ScreenSight.Detection.Pipeline
import ScreenSight.Proofs.Detection.Identifier

/-!
# Runs of a pipeline

A run accepts one component after the other, so what accepting keeps holds in the end.
In particular no id is given twice, whatever the detectors are called and find.
-/

namespace ScreenSight.Pipeline

theorem standard_eq : standard = ⟨[Detector.frame, Detector.bracket]⟩ := by
  have alone : [Detector.frame].mergeSort (fun left right => right.priority ≤ left.priority) =
      [Detector.frame] := List.mergeSort_singleton _
  have ordered : [Detector.frame, Detector.bracket].Pairwise fun left right =>
      decide (right.priority ≤ left.priority) = true := by
    simp [Detector.frame, Detector.bracket]
  simp only [standard, ofList, List.foldl_cons, List.foldl_nil, add, List.nil_append, alone,
    List.singleton_append, List.mergeSort_of_pairwise ordered]

theorem mem_standard {detector : Detector} (listed : detector ∈ standard.detectors) :
    detector = Detector.frame ∨ detector = Detector.bracket := by
  rw [standard_eq] at listed
  simpa using listed

/-- What holds at the start and is kept when something is accepted that a detector has
found, holds at the end. -/
theorem detect_induction {motive : Progress → Prop} (pipeline : Pipeline) (grid : Grid)
    (start : motive {})
    (accept : ∀ detector ∈ pipeline.detectors, ∀ claimed,
      ∀ detected ∈ detector.detect grid claimed, ∀ progress, motive progress →
        motive (progress.accept detector.name detected)) :
    ∃ progress, motive progress ∧ pipeline.detect grid = progress.components := by
  refine ⟨_, ?_, rfl⟩
  refine List.foldlRecOn (motive := motive) _ _ start ?_
  intro progress held detector member
  rw [Progress.advance]
  split
  · refine List.foldlRecOn (motive := motive) _ _ held ?_
    intro current held detected found
    exact accept detector member progress.claimed detected found current held
  · exact held

/-! ## Ids -/

/-- The ids of the components found so far have been given one after the other, each for the
name of one of some detectors. -/
def Numbered (detectors : List Detector) (progress : Progress) : Prop :=
  ∃ kinds, (∀ kind ∈ kinds, ∃ detector ∈ detectors, detector.name = kind) ∧
    progress.components.map Component.id = IdCounters.zero.issue kinds ∧
    progress.counters = IdCounters.zero.advance kinds

theorem Numbered.accept {detectors : List Detector} {progress : Progress}
    (numbered : Numbered detectors progress) {detector : Detector} (listed : detector ∈ detectors)
    (detected : Detected) : Numbered detectors (progress.accept detector.name detected) := by
  obtain ⟨kinds, named, ids, counters⟩ := numbered
  refine ⟨kinds ++ [detector.name], ?_, ?_, ?_⟩
  · intro kind member
    rcases List.mem_append.mp member with earlier | last
    · exact named kind earlier
    · exact ⟨detector, listed, (List.mem_singleton.mp last).symm⟩
  · rw [IdCounters.issue_append_singleton, ← ids, ← counters]
    exact List.map_append
  · rw [IdCounters.advance_append_singleton, ← counters]
    rfl

/-- A pipeline gives the ids of its components one after the other. -/
theorem exists_issue (pipeline : Pipeline) (grid : Grid) :
    ∃ kinds, (∀ kind ∈ kinds, ∃ detector ∈ pipeline.detectors, detector.name = kind) ∧
      (pipeline.detect grid).map Component.id = IdCounters.zero.issue kinds := by
  have start : Numbered pipeline.detectors {} :=
    ⟨[], fun _ member => absurd member List.not_mem_nil, rfl, rfl⟩
  obtain ⟨progress, ⟨kinds, named, ids, _⟩, found⟩ := pipeline.detect_induction grid start
    fun _ listed _ detected _ _ numbered => numbered.accept listed detected
  rw [found]
  exact ⟨kinds, named, ids⟩

/-- No two components of a grid have the same id. -/
theorem nodup_ids (pipeline : Pipeline) (grid : Grid) :
    ((pipeline.detect grid).map Component.id).Nodup := by
  obtain ⟨kinds, _, ids⟩ := pipeline.exists_issue grid
  rw [ids]
  exact IdCounters.nodup_issue _ kinds

/-- Between two resets the counters give every id once, whatever kinds are asked for and
whatever was asked for before: the id at a place is made of its kind and a number that grows
with the kind.  A pipeline asks new counters for the ids of its components, with the names
of its detectors as kinds, so no two of them are the same. -/
theorem served_distinct (earlier : List IdCounters.Request) (kinds : List String)
    (later : List IdCounters.Request) :
    (∃ (start : String → Nat) (ids : List String) (rest : List (Option String)),
      IdCounters.zero.serve (earlier ++ (kinds.map IdCounters.Request.next ++ later)) =
        IdCounters.zero.serve earlier ++ (ids.map some ++ rest) ∧
      ids.Nodup ∧
      ∀ place, ids[place]? = kinds[place]?.map fun kind =>
        IdCounters.idOf kind (start kind + (kinds.take (place + 1)).count kind)) ∧
    ∀ (pipeline : Pipeline) (grid : Grid),
      (∃ names, (∀ name ∈ names, ∃ detector ∈ pipeline.detectors, detector.name = name) ∧
        (pipeline.detect grid).map Component.id = IdCounters.zero.issue names) ∧
      ((pipeline.detect grid).map Component.id).Nodup := by
  constructor
  · obtain ⟨reached, served⟩ := IdCounters.exists_serve_append IdCounters.zero earlier
      (kinds.map IdCounters.Request.next ++ later)
    rw [IdCounters.serve_next_append] at served
    exact ⟨reached.count, reached.issue kinds, _, served, reached.nodup_issue kinds,
      reached.getElem?_issue kinds⟩
  · exact fun pipeline grid => ⟨pipeline.exists_issue grid, pipeline.nodup_ids grid⟩

/-! ## Components -/

/-- A component is what one of the detectors has found, but for its id. -/
theorem exists_of_mem_detect {pipeline : Pipeline} {grid : Grid} {component : Component}
    (member : component ∈ pipeline.detect grid) :
    ∃ detector ∈ pipeline.detectors, ∃ claimed, ∃ detected ∈ detector.detect grid claimed,
      ∃ id, component = { detected.component with id := id } := by
  obtain ⟨progress, traced, found⟩ := pipeline.detect_induction grid
    (motive := fun progress => ∀ component ∈ progress.components,
      ∃ detector ∈ pipeline.detectors, ∃ claimed, ∃ detected ∈ detector.detect grid claimed,
        ∃ id, component = { detected.component with id := id })
    (fun component member => absurd member List.not_mem_nil)
    (by
      intro detector listed claimed detected found progress traced component member
      rcases List.mem_append.mp member with earlier | last
      · exact traced component earlier
      · exact ⟨detector, listed, claimed, detected, found, _, List.mem_singleton.mp last⟩)
  rw [found] at member
  exact traced component member

end ScreenSight.Pipeline
