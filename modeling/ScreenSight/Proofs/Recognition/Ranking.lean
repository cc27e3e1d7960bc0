import ScreenSight.Proofs.Failure
import ScreenSight.Proofs.Ordered.Real
import ScreenSight.Proofs.Ordered.Sorting
import ScreenSight.Recognition.Processor

/-!
# How strategies rank matches

The strategy of a matcher decides nothing but the order of the matches.  Matches stand in the
order in which their patterns are registered, or else by falling confidence, where equally
confident ones stay in the order of registration.  So a component is classified by the match
registered first, or by the one registered first among the most confident.
-/

namespace ScreenSight

open Hunt

namespace Matcher

/-! ## The order of matches -/

/-- What each of some patterns says to a view, up to the first one that fails. -/
def tryAll (view : ComponentView) (patterns : List ComponentPattern) :
    Except Failure (List (Option PatternMatch)) :=
  patterns.mapM fun pattern : ComponentPattern => pattern.evaluate view.symbols view.text

theorem tryAll_cons (view : ComponentView) (pattern : ComponentPattern)
    (rest : List ComponentPattern) :
    tryAll view (pattern :: rest) = do
      let found ← pattern.evaluate view.symbols view.text
      let others ← tryAll view rest
      return found :: others :=
  List.mapM_cons

theorem evaluateAll_eq (view : ComponentView) (patterns : List ComponentPattern) :
    evaluateAll view patterns = (tryAll view patterns).map (List.filterMap id) := by
  induction patterns with
  | nil => rfl
  | cons pattern rest induction =>
      rw [evaluateAll, induction, tryAll_cons]
      cases pattern.evaluate view.symbols view.text with
      | error failure => rfl
      | ok found =>
          cases tryAll view rest with
          | error failure => rfl
          | ok others => cases found <;> rfl

theorem candidates_eq_error_iff {strategy : MatchStrategy} {registry : Registry}
    {view : ComponentView} {failure : Failure} :
    (⟨strategy⟩ : Matcher).candidates registry view = .error failure ↔
      evaluateAll view registry.component.values = .error failure :=
  Failure.map_eq_error_iff

/-- A match at its place is no less confident than another one. -/
def isAtLeast (left right : PatternMatch × Nat) : Bool :=
  orderKey right.1.confidence ≤ orderKey left.1.confidence

theorem isAtLeast_iff {left right : PatternMatch × Nat} :
    isAtLeast left right = true ↔ ¬StandsBefore left.1.confidence right.1.confidence := by
  rw [isAtLeast, decide_eq_true_iff, not_standsBefore_iff]

theorem isAtLeast_trans (first second third : PatternMatch × Nat)
    (upper : isAtLeast first second = true) (lower : isAtLeast second third = true) :
    isAtLeast first third = true := by
  simp only [isAtLeast, decide_eq_true_eq] at upper lower ⊢
  exact Int.le_trans lower upper

theorem isAtLeast_total (left right : PatternMatch × Nat) :
    (isAtLeast left right || isAtLeast right left) = true := by
  simp only [isAtLeast, Bool.or_eq_true, decide_eq_true_eq]
  exact Int.le_total _ _

/-- A match at its place ranks before another one: its confidence is not smaller, and if it is
equal, the place is smaller. -/
def RanksBefore (earlier later : PatternMatch × Nat) : Prop :=
  ¬StandsBefore earlier.1.confidence later.1.confidence ∧
    (earlier.1.confidence = later.1.confidence → earlier.2 < later.2)

/-- Sorting ranks the matches by the places at which they have stood. -/
theorem exists_ranking (found : List PatternMatch) :
    ∃ placed : List (PatternMatch × Nat), placed.Perm found.zipIdx ∧
      placed.map Prod.fst = byConfidence found ∧ placed.Pairwise RanksBefore := by
  refine ⟨found.zipIdx.mergeSort isAtLeast, List.mergeSort_perm _ _, ?_, ?_⟩
  · have sorted : (found.zipIdx.mergeSort isAtLeast).map Prod.fst =
        byConfidence (found.zipIdx.map Prod.fst) :=
      List.map_mergeSort fun _ _ _ _ => rfl
    rw [sorted, List.zipIdx_map_fst]
  · refine (mergeSort_pairwise_place isAtLeast_trans isAtLeast_total (pairwise_zipIdx found)).imp ?_
    rintro earlier later ⟨atLeast, tied⟩
    refine ⟨isAtLeast_iff.mp atLeast, ?_⟩
    intro equal
    apply tied
    rw [isAtLeast_iff, equal]
    exact not_standsBefore_self _

/-! ## The best match -/

/-- No match is more confident, and each earlier one is less confident. -/
def IsMostConfident (found : List PatternMatch) (best : PatternMatch) : Prop :=
  ∃ place : Nat, found[place]? = some best ∧
    ∀ (otherPlace : Nat) (other : PatternMatch), found[otherPlace]? = some other →
      ¬StandsBefore best.confidence other.confidence ∧
        (otherPlace < place → StandsBefore other.confidence best.confidence)

theorem isMostConfident_of_ranking {found : List PatternMatch} {best : PatternMatch}
    {place : Nat} {rest : List (PatternMatch × Nat)}
    (same : ((best, place) :: rest).Perm found.zipIdx)
    (ranked : ((best, place) :: rest).Pairwise RanksBefore) : IsMostConfident found best := by
  have here : (best, place) ∈ found.zipIdx := same.mem_iff.mp List.mem_cons_self
  refine ⟨place, List.mem_zipIdx_iff_getElem?.mp here, ?_⟩
  intro otherPlace other there
  -- every other match stands behind the best one in the ranking
  have listed : (other, otherPlace) ∈ (best, place) :: rest :=
    same.mem_iff.mpr (List.mem_zipIdx_iff_getElem?.mpr there)
  rcases List.mem_cons.mp listed with first | later
  · cases first
    exact ⟨not_standsBefore_self _, fun before => absurd before (Nat.lt_irrefl _)⟩
  · obtain ⟨notLess, tied⟩ := (List.pairwise_cons.mp ranked).1 _ later
    refine ⟨notLess, ?_⟩
    intro before
    apply standsBefore_of_not notLess
    intro equal
    have after := tied equal
    omega

/-- The match that a strategy takes from those in the order of registration, if there are any. -/
inductive Chooses : MatchStrategy → List PatternMatch → Option PatternMatch → Prop where
  | nothing (strategy : MatchStrategy) : Chooses strategy [] none
  | first (best : PatternMatch) (rest : List PatternMatch) :
      Chooses .firstRegistered (best :: rest) (some best)
  | mostConfident {found : List PatternMatch} {best : PatternMatch}
      (confident : IsMostConfident found best) : Chooses .highestConfidence found (some best)

theorem chooses_head? (strategy : MatchStrategy) (found : List PatternMatch) :
    Chooses strategy found (arrange strategy found).head? := by
  cases strategy with
  | firstRegistered =>
      cases found with
      | nil => exact .nothing _
      | cons best rest => exact .first best rest
  | highestConfidence =>
      obtain ⟨placed, same, sorted, ranked⟩ := exists_ranking found
      rw [arrange, ← sorted]
      cases placed with
      | nil =>
          have none : found = [] := List.zipIdx_eq_nil_iff.mp same.nil_eq.symm
          rw [none]
          exact .nothing _
      | cons head rest => exact .mostConfident (isMostConfident_of_ranking same ranked)

end Matcher

namespace Processor

/-- A component has been classified by a match, if there is one, and stores what was extracted. -/
structure Applies (component : Component) (best : Option PatternMatch)
    (extracted : List (String × Extraction)) (after : Classified) : Prop where
  component : after.component = (best.elim component component.classifyBy).storeAll extracted
  outcome : after.classification.outcome = best.elim .unmatched fun found =>
    .matched found.pattern found.componentType found.confidence
  scent : after.scent = none

theorem applies_classify {processor : Processor} {grid : Grid} {component : Component}
    {candidates : List PatternMatch} {extracted : List (String × Extraction)}
    (matched : processor.matcher.candidates processor.registry (grid.view component) =
      .ok candidates)
    (taken : Matcher.extract processor.registry (grid.view component) = .ok extracted) :
    Applies component candidates.head? extracted (processor.classify grid component) := by
  rw [classify, applyBest, matched, taken]
  cases candidates with
  | nil => exact ⟨rfl, rfl, rfl⟩
  | cons best rest => exact ⟨rfl, rfl, rfl⟩

end Processor

namespace Matcher

/-- Matching fails or succeeds under both strategies, and with the same failure or the same
matches.  Their order is that of registration, or a ranking by confidence; the first one
classifies the component. -/
theorem candidates_ranked (registry : Registry) (view : ComponentView) :
    (∀ failure, (⟨.firstRegistered⟩ : Matcher).candidates registry view = .error failure ↔
      (⟨.highestConfidence⟩ : Matcher).candidates registry view = .error failure) ∧
    ∀ first, (⟨.firstRegistered⟩ : Matcher).candidates registry view = .ok first →
      (∃ tried, tryAll view registry.component.values = .ok tried ∧
        first = tried.filterMap id) ∧
      (∃ (best : List PatternMatch) (placed : List (PatternMatch × Nat)),
        (⟨.highestConfidence⟩ : Matcher).candidates registry view = .ok best ∧
        best.Perm first ∧ placed.Perm first.zipIdx ∧ placed.map Prod.fst = best ∧
        placed.Pairwise RanksBefore) ∧
      ∀ (processor : Processor) (grid : Grid) (component : Component)
        (extracted : List (String × Extraction)),
        processor.registry = registry → grid.view component = view →
        extract registry view = .ok extracted →
        ∃ chosen, Chooses processor.matcher.strategy first chosen ∧
          Processor.Applies component chosen extracted (processor.classify grid component) := by
  constructor
  · intro failure
    rw [candidates_eq_error_iff, candidates_eq_error_iff]
  intro first matched
  obtain ⟨found, evaluated, rfl⟩ := Failure.map_eq_ok_iff.mp matched
  refine ⟨?_, ?_, ?_⟩
  · rw [evaluateAll_eq] at evaluated
    obtain ⟨tried, succeeded, rfl⟩ := Failure.map_eq_ok_iff.mp evaluated
    exact ⟨tried, succeeded, rfl⟩
  · obtain ⟨placed, same, sorted, ranked⟩ := exists_ranking found
    refine ⟨byConfidence found, placed, ?_, List.mergeSort_perm _ _, same, sorted, ranked⟩
    exact Failure.map_eq_ok_iff.mpr ⟨found, evaluated, rfl⟩
  · rintro processor grid component extracted rfl rfl taken
    refine ⟨_, chooses_head? processor.matcher.strategy found, ?_⟩
    apply Processor.applies_classify _ taken
    exact Failure.map_eq_ok_iff.mpr ⟨found, evaluated, rfl⟩

/-- Two patterns for the same borders.  The one that is registered first covers their symbol only
as a part of its literal. -/
def doubtful : String :=
  "<hunt a:[INIT GATHER=\x7bparam tag:list=(val vv)\x7d]><EXEC>" ++
    "<hunt b:[INIT GATHER=\x7bparam tag:panel=(val v)\x7d]><EXEC>"

def drawing : Grid :=
  Grid.ofText "vv\nvv" 1

def drawn : Component :=
  { id := "c", box := some (Box.ofCorners 0 0 1 1) }

private theorem matches_doubtful :
    (({} : Processor).load [doubtful]).bind (fun loaded =>
      ((⟨.firstRegistered⟩ : Matcher).candidates loaded.1 (drawing.view drawn)).bind fun first =>
        (extract loaded.1 (drawing.view drawn)).map fun _ =>
          first.map fun found => (found.pattern, found.componentType, found.confidence)) =
      .ok [("a", "list", 0.5), ("b", "panel", 1.0)] := by
  decide +kernel

theorem candidates_ranked_doubtful :
    ∃ registry scents first,
      ({} : Processor).load [doubtful] = .ok (registry, scents) ∧
      (⟨.firstRegistered⟩ : Matcher).candidates registry (drawing.view drawn) = .ok first ∧
      first.map PatternMatch.pattern = ["a", "b"] ∧
      (({ registry := registry, matcher := ⟨.highestConfidence⟩ } : Processor).classify drawing
        drawn).classification.outcome = .matched "b" "panel" 1.0 := by
  obtain ⟨⟨registry, scents⟩, loaded, shown⟩ := Failure.bind_eq_ok_iff.mp matches_doubtful
  obtain ⟨first, matched, shown⟩ := Failure.bind_eq_ok_iff.mp shown
  obtain ⟨extracted, taken, shown⟩ := Failure.map_eq_ok_iff.mp shown
  refine ⟨registry, scents, first, loaded, matched, ?_, ?_⟩
  · have names := congrArg (List.map Prod.fst) shown
    rw [List.map_map] at names
    exact names
  · obtain ⟨_, _, classified⟩ := (candidates_ranked registry _).2 first matched
    obtain ⟨chosen, chooses, applies⟩ := classified
      { registry := registry, matcher := ⟨.highestConfidence⟩ } drawing drawn extracted rfl rfl
      taken
    rw [applies.outcome]
    cases chooses with
    | nothing => cases shown
    | mostConfident confident =>
        obtain ⟨place, here, others⟩ := confident
        have atPlace := congrArg (fun found => found[place]?) shown
        have atSecond := congrArg (fun found => found[1]?) shown
        simp only [List.getElem?_map, here, Option.map_some] at atPlace atSecond
        obtain ⟨second, there, seen⟩ := Option.map_eq_some_iff.mp atSecond
        have notLess := (others 1 second there).1
        simp only [Prod.mk.injEq] at seen
        match place with
        | 0 =>
            simp only [List.getElem?_cons_zero, Option.some.injEq, Prod.mk.injEq] at atPlace
            rw [atPlace.2.2, seen.2.2] at notLess
            exact absurd (orderKey_lt_iff.mp (by decide +kernel)) notLess
        | 1 =>
            simp only [List.getElem?_cons_succ, List.getElem?_cons_zero, Option.some.injEq,
              Prod.mk.injEq] at atPlace
            obtain ⟨pattern, kind, confidence⟩ := atPlace
            simp only [Option.elim, pattern, kind, confidence]
        | _ + 2 => cases atPlace

end Matcher

end ScreenSight
