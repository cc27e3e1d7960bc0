import ScreenSight.Detection.Bracket
import ScreenSight.Detection.Frame
import ScreenSight.Detection.Identifier

/-!
# The detection pipeline

The detectors of a pipeline run by falling priority.  The border of each component is claimed as
soon as its detector is done, and the components are named after their detectors.
-/

namespace ScreenSight

/-- Detectors in the order in which they run. -/
structure Pipeline where
  detectors : List Detector := []

namespace Pipeline

/-- Add a detector behind those of the same priority. -/
def add (pipeline : Pipeline) (detector : Detector) : Pipeline :=
  ⟨(pipeline.detectors ++ [detector]).mergeSort fun left right =>
    right.priority ≤ left.priority⟩

def ofList (detectors : List Detector) : Pipeline :=
  detectors.foldl add {}

/-- The pipeline that finds frames and bracketed spans. -/
def standard : Pipeline :=
  ofList [Detector.frame, Detector.bracket]

/-- What a run has found so far. -/
structure Progress where
  claimed : CellSet := SortedSet.empty
  counters : IdCounters := IdCounters.zero
  components : List Component := []

/-- Name a component after its detector and claim its border. -/
def Progress.accept (progress : Progress) (name : String) (detected : Detected) : Progress :=
  let (id, counters) := progress.counters.next name
  { claimed := detected.component.boundary.union progress.claimed
    counters := counters
    components := progress.components ++ [{ detected.component with id := id }] }

/-- Run a detector, unless it is switched off. -/
def Progress.advance (progress : Progress) (grid : Grid) (detector : Detector) : Progress :=
  if detector.isEnabled then
    (detector.detect grid progress.claimed).foldl
      (fun current detected => current.accept detector.name detected) progress
  else progress

def detect (pipeline : Pipeline) (grid : Grid) : List Component :=
  (pipeline.detectors.foldl (fun (progress : Progress) detector => progress.advance grid detector)
    {}).components

end Pipeline

end ScreenSight
