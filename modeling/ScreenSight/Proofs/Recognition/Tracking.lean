import ScreenSight.Proofs.Hunt.Interpreter
import ScreenSight.Proofs.Hunt.Scoring
import ScreenSight.Proofs.Recognition.Repetition

/-!
# Tracks and matches

A block leaves a tracking pattern and perhaps a component pattern, and each of them
keeps the tag rules of the block.  A border is tracked if every tag rule accepts it;
a component pattern scores it by the same rules.  As long as only the interpreter
writes into the registry, both patterns of a name come from the same block, so what
is matched is tracked.
-/

namespace ScreenSight

open Hunt

/-! ## Scores -/

namespace Hunt

theorem ComponentPattern.isSome_confidence?_iff {pattern : ComponentPattern}
    {symbols : SortedSet Char} :
    (pattern.confidence? symbols).isSome = true ↔
      ∀ tag ∈ pattern.tags, tag.accepts symbols = true := by
  rw [confidence?, Option.isSome_map, isSome_mapM_iff]
  simp only [TagRule.score?, Option.isSome_map, TagRule.accepts]

/-- A pattern that matches gives its name and has scored the border. -/
theorem ComponentPattern.of_evaluate {pattern : ComponentPattern} {symbols : SortedSet Char}
    {text : String} {found : PatternMatch}
    (matched : pattern.evaluate symbols text = .ok (some found)) :
    found.pattern = pattern.name ∧ (pattern.confidence? symbols).isSome = true := by
  rw [evaluate] at matched
  cases scored : pattern.confidence? symbols with
  | none =>
      rw [scored] at matched
      cases matched
  | some confidence =>
      rw [scored] at matched
      obtain ⟨extracted, _, made⟩ := Failure.bind_eq_ok_iff.mp matched
      obtain ⟨_, _, rfl⟩ := Option.map_eq_some_iff.mp (Except.ok.inj made)
      exact ⟨rfl, rfl⟩

/-- A pattern without pluck rules matches every border that it scores. -/
theorem ComponentPattern.exists_evaluate {pattern : ComponentPattern}
    {symbols : SortedSet Char} (text : String) (plain : pattern.plucks = [])
    (scored : (pattern.confidence? symbols).isSome = true) :
    ∃ found, pattern.evaluate symbols text = .ok (some found) := by
  obtain ⟨confidence, score⟩ := Option.isSome_iff_exists.mp scored
  rw [evaluate, score, plain]
  exact ⟨_, rfl⟩

theorem Roster.mem_entries_of_get? {α : Type} {roster : Roster α} {name : String} {value : α}
    (found : roster.get? name = some value) : (name, value) ∈ roster.entries := by
  obtain ⟨⟨key, other⟩, first, rfl⟩ := Option.map_eq_some_iff.mp found
  have same : key = name := by simpa using List.find?_some first
  rw [← same]
  exact List.mem_of_find?_eq_some first

end Hunt

/-! ## Candidates -/

namespace Matcher

theorem mem_evaluateAll_iff {view : ComponentView} {patterns : List ComponentPattern}
    {found : List PatternMatch} (evaluated : evaluateAll view patterns = .ok found)
    {single : PatternMatch} :
    single ∈ found ↔ ∃ pattern ∈ patterns,
      pattern.evaluate view.symbols view.text = .ok (some single) := by
  induction patterns generalizing found with
  | nil =>
      cases evaluated
      simp
  | cons pattern rest induction =>
      obtain ⟨first, firstOk, evaluated⟩ := Failure.bind_eq_ok_iff.mp evaluated
      obtain ⟨others, othersOk, made⟩ := Failure.bind_eq_ok_iff.mp evaluated
      cases made
      rw [List.mem_append, induction othersOk, List.exists_mem_cons_iff, firstOk]
      simp [eq_comm]

theorem mem_arrange_iff {strategy : MatchStrategy} {found : List PatternMatch}
    {single : PatternMatch} : single ∈ arrange strategy found ↔ single ∈ found := by
  cases strategy with
  | firstRegistered => rfl
  | highestConfidence => exact List.mem_mergeSort

/-- The candidates are the matches of the component patterns. -/
theorem mem_candidates_iff {matcher : Matcher} {registry : Registry} {view : ComponentView}
    {found : List PatternMatch} (listed : matcher.candidates registry view = .ok found)
    {single : PatternMatch} :
    single ∈ found ↔ ∃ pattern ∈ registry.component.values,
      pattern.evaluate view.symbols view.text = .ok (some single) := by
  obtain ⟨evaluated, evaluatedOk, rfl⟩ := Failure.map_eq_ok_iff.mp listed
  rw [mem_arrange_iff, mem_evaluateAll_iff evaluatedOk]

theorem mem_tracks_iff {registry : Registry} {view : ComponentView} {name : String} :
    name ∈ tracks registry view ↔ ∃ pattern, registry.tracking.get? name = some pattern ∧
      pattern.tracks view.symbols = true := by
  rw [tracks, List.mem_map]
  constructor
  · intro listed
    obtain ⟨entry, member, rfl⟩ := listed
    obtain ⟨registered, tracked⟩ := List.mem_filter.mp member
    exact ⟨entry.2, Roster.get?_eq_some_of_mem registered, tracked⟩
  · intro listed
    obtain ⟨pattern, found, tracked⟩ := listed
    exact ⟨(name, pattern),
      List.mem_filter.mpr ⟨Roster.mem_entries_of_get? found, tracked⟩, rfl⟩

end Matcher

/-! ## Both patterns of a block -/

namespace Hunt.Interpreter

/-- A component pattern scores just the borders that its name tracks. -/
theorem Reflects.mem_tracks_iff {interpreter : Interpreter} {registry : Registry}
    {declared : List Declaration} (reflects : Reflects interpreter registry declared)
    {name : String} {pattern : ComponentPattern}
    (found : registry.component.get? name = some pattern) (view : ComponentView) :
    name ∈ Matcher.tracks registry view ↔
      (pattern.confidence? view.symbols).isSome = true := by
  obtain ⟨rules, last, tag, tags, tagged, _, rfl⟩ :=
    (reflects.component name pattern).mp found
  have shown := reflects.tracking name
  rw [last] at shown
  obtain ⟨tracking, registered, same⟩ := Option.map_eq_some_iff.mp shown
  have own : tracking.rules = rules := (Prod.mk.inj same).2
  have present : (tag :: tags).isEmpty = false := rfl
  rw [Matcher.mem_tracks_iff, registered, ComponentPattern.isSome_confidence?_iff]
  simp only [Option.some.injEq, exists_eq_left', TrackingPattern.tracks, own, tagged,
    present, Bool.not_false, Bool.true_and, List.all_eq_true]

theorem Reflects.name_of_component {interpreter : Interpreter} {registry : Registry}
    {declared : List Declaration} (reflects : Reflects interpreter registry declared)
    {name : String} {pattern : ComponentPattern}
    (found : registry.component.get? name = some pattern) : pattern.name = name := by
  obtain ⟨_, _, _, _, _, _, rfl⟩ := (reflects.component name pattern).mp found
  rfl

end Hunt.Interpreter

namespace Processor

/-- Whatever the registry holds comes from sources that the interpreter has tried. -/
def SelfTaught (processor : Processor) : Prop :=
  ∃ sources, processor.registry = processor.interpreter.attemptAll Registry.empty sources

theorem attemptAll_of_loadInto {interpreter : Interpreter} {registry last : Registry}
    {sources : List String} {scents : List Scent}
    (loaded : loadInto interpreter registry sources = .ok (last, scents)) :
    last = interpreter.attemptAll registry sources := by
  induction sources generalizing registry scents with
  | nil =>
      cases loaded
      rfl
  | cons source rest induction =>
      obtain ⟨⟨next, interpretation⟩, interpreted, loaded⟩ :=
        Failure.bind_eq_ok_iff.mp loaded
      obtain ⟨⟨final, others⟩, restLoaded, made⟩ := Failure.bind_eq_ok_iff.mp loaded
      cases made
      have attempted : interpreter.attempt registry source = next := by
        rw [Interpreter.attempt, interpreted]
      rw [Interpreter.attemptAll, List.foldl_cons, attempted]
      exact induction restLoaded

/-- A processor that loads sources remains self-taught. -/
theorem SelfTaught.load {processor : Processor} (taught : processor.SelfTaught)
    {sources : List String} {registry : Registry} {scents : List Scent}
    (loaded : processor.load sources = .ok (registry, scents)) :
    { processor with registry := registry }.SelfTaught := by
  obtain ⟨before, known⟩ := taught
  refine ⟨before ++ sources, ?_⟩
  have reached := attemptAll_of_loadInto loaded
  rw [known, Interpreter.attemptAll, Interpreter.attemptAll, ← List.foldl_append] at reached
  exact reached

theorem SelfTaught.reflects {processor : Processor} (taught : processor.SelfTaught) :
    ∃ declared, Interpreter.Reflects processor.interpreter processor.registry declared := by
  obtain ⟨sources, known⟩ := taught
  rw [known]
  exact ⟨_, (Interpreter.Reflects.empty processor.interpreter).attemptAll sources⟩

/-! ## Verdicts -/

section

variable {processor : Processor} (taught : processor.SelfTaught) {view : ComponentView}

theorem candidates_of_matched {pattern kind : String} {confidence : Float}
    (matched : (processor.verdict view).outcome = .matched pattern kind confidence) :
    ∃ found rest, processor.matcher.candidates processor.registry view =
      .ok (found :: rest) ∧ found.pattern = pattern := by
  rcases processor.verdict_cases view with
    ⟨failure, verdict⟩ | ⟨writes, _, verdict⟩ | ⟨found, rest, writes, listed, verdict⟩
  · rw [verdict] at matched
    cases matched
  · rw [verdict] at matched
    cases matched
  · rw [verdict] at matched
    cases matched
    exact ⟨found, rest, listed, rfl⟩

theorem candidates_of_unmatched (unmatched : (processor.verdict view).outcome = .unmatched) :
    processor.matcher.candidates processor.registry view = .ok [] := by
  rcases processor.verdict_cases view with
    ⟨failure, verdict⟩ | ⟨writes, listed, _⟩ | ⟨found, rest, writes, _, verdict⟩
  · rw [verdict] at unmatched
    cases unmatched
  · exact listed
  · rw [verdict] at unmatched
    cases unmatched

include taught

theorem mem_tracks_of_matched {pattern kind : String} {confidence : Float}
    (matched : (processor.verdict view).outcome = .matched pattern kind confidence) :
    pattern ∈ Matcher.tracks processor.registry view := by
  obtain ⟨declared, reflects⟩ := taught.reflects
  obtain ⟨found, rest, listed, rfl⟩ := candidates_of_matched matched
  obtain ⟨own, member, evaluated⟩ :=
    (Matcher.mem_candidates_iff listed).mp List.mem_cons_self
  obtain ⟨⟨name, _⟩, entry, rfl⟩ := List.mem_map.mp member
  have registered := Roster.get?_eq_some_of_mem entry
  obtain ⟨named, scored⟩ := ComponentPattern.of_evaluate evaluated
  rw [named, reflects.name_of_component registered]
  exact (reflects.mem_tracks_iff registered view).mpr scored

theorem not_unmatched_of_mem_tracks {name : String}
    (tracked : name ∈ Matcher.tracks processor.registry view) {pattern : ComponentPattern}
    (registered : processor.registry.component.get? name = some pattern)
    (plain : pattern.plucks = []) : (processor.verdict view).outcome ≠ .unmatched := by
  obtain ⟨declared, reflects⟩ := taught.reflects
  intro unmatched
  have scored := (reflects.mem_tracks_iff registered view).mp tracked
  obtain ⟨found, evaluated⟩ := ComponentPattern.exists_evaluate view.text plain scored
  have listed : pattern ∈ processor.registry.component.values :=
    List.mem_map_of_mem (Roster.mem_entries_of_get? registered)
  have candidate := (Matcher.mem_candidates_iff (candidates_of_unmatched unmatched)).mpr
    ⟨pattern, listed, evaluated⟩
  cases candidate

end

/-! ## The whole pass -/

/-- In a pass of a self-taught processor every pattern that matches is among the tracks
of its component, and no component stays unmatched if its tracks name a component
pattern without pluck rules.  The processor is self-taught again afterwards. -/
theorem process_tracks {processor : Processor} {given : Option Grid} {context : Context}
    {components : List Component} (taught : processor.SelfTaught)
    (succeeded : (processor.process given context).result = .ok components) :
    (processor.process given context).processor.SelfTaught ∧
      ∀ classification ∈ (processor.process given context).context.classification,
        (∀ pattern kind confidence,
          classification.outcome = .matched pattern kind confidence →
            pattern ∈ classification.tracks) ∧
        ∀ name ∈ classification.tracks, ∀ pattern,
          (processor.process given context).processor.registry.component.get? name =
            some pattern → pattern.plucks = [] → classification.outcome ≠ .unmatched := by
  obtain ⟨registry, scents, grid, listed, loaded, found, present, valid⟩ :=
    of_process_ok succeeded
  have learned := taught.load loaded
  rw [process_eq loaded found present valid]
  refine ⟨learned, ?_⟩
  intro classification member
  obtain ⟨classified, recorded, rfl⟩ := List.mem_map.mp member
  obtain ⟨component, _, rfl⟩ := List.mem_map.mp recorded
  rw [classify_eq]
  constructor
  · intro pattern kind confidence matched
    exact mem_tracks_of_matched learned matched
  · intro name tracked pattern registered plain
    exact not_unmatched_of_mem_tracks learned tracked registered plain

/-- What is left of a source, and after it one that breaks off. -/
def attempted : Registry :=
  ({} : Interpreter).attemptAll Registry.empty [labelling, "<hunt b:"]

theorem process_tracks_labelled :
    ∃ pass components classification pattern,
      ({ registry := attempted } : Processor).SelfTaught ∧
      ({ registry := attempted } : Processor).process (some (Grid.ofText "vvv\nv v\nvvv" 1))
        labelled = pass ∧
      pass.result = .ok components ∧ pass.context.classification = [classification] ∧
      classification.isMatched = true ∧ classification.tracks = ["a"] ∧
      pass.processor.registry.component.get? "a" = some pattern ∧ pattern.plucks = [] ∧
      classification.outcome ≠ .unmatched ∧
      ∀ pattern kind confidence, classification.outcome = .matched pattern kind confidence →
        pattern ∈ classification.tracks := by
  have taught : ({ registry := attempted } : Processor).SelfTaught :=
    ⟨[labelling, "<hunt b:"], rfl⟩
  generalize passed :
    ({ registry := attempted } : Processor).process (some (Grid.ofText "vvv\nv v\nvvv" 1))
      labelled = pass
  have types : pass.result.map (List.map Component.kind) = .ok ["list"] := by
    rw [← passed]
    decide +kernel
  have records : pass.context.classification.map (fun classification =>
      (classification.isMatched, classification.tracks)) = [(true, ["a"])] := by
    rw [← passed]
    decide +kernel
  have plucks : (pass.processor.registry.component.get? "a").map (fun pattern =>
      pattern.plucks.isEmpty) = some true := by
    rw [← passed]
    decide +kernel
  obtain ⟨components, succeeded, _⟩ := Failure.map_eq_ok_iff.mp types
  obtain ⟨classification, others, listed, record, none⟩ := List.map_eq_cons_iff.mp records
  cases List.map_eq_nil_iff.mp none
  obtain ⟨pattern, registered, plain⟩ := Option.map_eq_some_iff.mp plucks
  obtain ⟨matched, tracks⟩ := Prod.mk.inj record
  have tracked : "a" ∈ classification.tracks := by
    rw [tracks]
    exact List.mem_singleton_self "a"
  have outcome := process_tracks taught (passed ▸ succeeded)
  rw [passed] at outcome
  obtain ⟨named, known⟩ := outcome.2 classification (listed ▸ List.mem_singleton_self _)
  have none := List.isEmpty_iff.mp plain
  exact ⟨pass, components, classification, pattern, taught, rfl, succeeded, listed, matched,
    tracks, registered, none, known "a" tracked pattern registered none, named⟩

end Processor

end ScreenSight
