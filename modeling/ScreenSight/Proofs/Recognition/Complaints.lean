import ScreenSight.Proofs.Hunt.Warnings
import ScreenSight.Proofs.Recognition.Publication
import ScreenSight.Proofs.Recognition.Tracking

/-!
# Why classification fails

Nothing fails in matching a component but a pluck rule that comes to an expression that is
not well formed.  Its pattern is in the registry, so if the registry was filled by
interpreting sources, one of them has left a scent about this expression before.  A history
without such scents lets no classification fail.
-/

namespace ScreenSight

open Failure (FailsAs)

namespace Hunt

/-! ## Rules -/

/-- A failure is that of a rule at one of its expressions that is not well formed. -/
def PluckRule.Complains (rule : PluckRule) (failure : Failure) : Prop :=
  ∃ expression ∈ rule.invalid,
    failure = .invalidPattern s!"pluck `{rule.target}`: {expression.complaint}"

theorem failsAs_extractBy (target text : String) (expressions : List Expression) :
    FailsAs (PluckRule.Complains ⟨target, expressions⟩)
      (PluckRule.extractBy target text expressions) := by
  induction expressions with
  | nil => exact FailsAs.ok none
  | cons expression rest induction =>
      rw [PluckRule.extractBy]
      cases meaning : expression.regex with
      | none =>
          refine FailsAs.error ⟨expression, ?_, rfl⟩
          exact List.mem_filter.mpr ⟨List.mem_cons_self, by simp [Expression.isValid, meaning]⟩
      | some regex =>
          cases found : (regex.search text.toList).bind (Extraction.ofMatch? regex) with
          | some extraction =>
              simp only [found]
              exact FailsAs.ok _
          | none =>
              simp only [found]
              refine induction.imp ?_
              rintro failure ⟨later, invalid, same⟩
              have subset : rest.Sublist (expression :: rest) := List.sublist_cons_self ..
              exact ⟨later, (subset.filter _).subset invalid, same⟩

theorem failsAs_pluckAll (text : String) (rules : List PluckRule) :
    FailsAs (fun failure => ∃ rule ∈ rules, rule.Complains failure) (pluckAll text rules) := by
  induction rules with
  | nil => exact FailsAs.ok []
  | cons rule rest induction =>
      refine FailsAs.cons (failsAs_extractBy rule.target text rule.expressions) ?_
      intro extraction
      refine FailsAs.bind induction ?_
      intro others
      exact FailsAs.ok _

theorem failsAs_pluckEach (text : String) (rules : List PluckRule) :
    FailsAs (fun failure => ∃ rule ∈ rules, rule.Complains failure) (pluckEach text rules) := by
  induction rules with
  | nil => exact FailsAs.ok (some [])
  | cons rule rest induction =>
      refine FailsAs.cons (failsAs_extractBy rule.target text rule.expressions) ?_
      intro extraction
      cases extraction with
      | none => exact FailsAs.ok none
      | some extraction =>
          refine FailsAs.bind induction ?_
          intro others
          exact FailsAs.ok _

/-! ## Patterns -/

def ComponentPattern.Complains (pattern : ComponentPattern) (failure : Failure) : Prop :=
  ∃ rule ∈ pattern.plucks, rule.Complains failure

def ExtractionPattern.Complains (pattern : ExtractionPattern) (failure : Failure) : Prop :=
  ∃ rule ∈ pattern.plucks, rule.Complains failure

theorem ComponentPattern.failsAs_evaluate (pattern : ComponentPattern)
    (symbols : SortedSet Char) (text : String) :
    FailsAs pattern.Complains (pattern.evaluate symbols text) := by
  rw [evaluate]
  cases pattern.confidence? symbols with
  | none => exact FailsAs.ok none
  | some confidence =>
      refine FailsAs.bind (failsAs_pluckEach text pattern.plucks) ?_
      intro extracted
      exact FailsAs.ok _

theorem ExtractionPattern.failsAs_extract (pattern : ExtractionPattern)
    (symbols : SortedSet Char) (text : String) :
    FailsAs pattern.Complains (pattern.extract symbols text) := by
  rw [extract]
  split
  · exact failsAs_pluckAll text pattern.plucks
  · exact FailsAs.ok []

/-- A failure is that of a pluck rule under a name of a registry. -/
def Registry.Complains (registry : Registry) (failure : Failure) : Prop :=
  ∃ name rule, registry.Plucks name rule ∧ rule.Complains failure

end Hunt

open Hunt

/-! ## Matching -/

namespace Matcher

theorem failsAs_evaluateAll (view : ComponentView) (patterns : List ComponentPattern) :
    FailsAs (fun failure => ∃ pattern ∈ patterns, pattern.Complains failure)
      (evaluateAll view patterns) := by
  induction patterns with
  | nil => exact FailsAs.ok []
  | cons pattern rest induction =>
      refine FailsAs.cons (pattern.failsAs_evaluate view.symbols view.text) ?_
      intro found
      refine FailsAs.bind induction ?_
      intro others
      exact FailsAs.ok _

theorem failsAs_extractAll (view : ComponentView) (patterns : List ExtractionPattern) :
    FailsAs (fun failure => ∃ pattern ∈ patterns, pattern.Complains failure)
      (extractAll view patterns) := by
  induction patterns with
  | nil => exact FailsAs.ok []
  | cons pattern rest induction =>
      refine FailsAs.cons (pattern.failsAs_extract view.symbols view.text) ?_
      intro found
      refine FailsAs.bind induction ?_
      intro others
      exact FailsAs.ok _

theorem failsAs_candidates (matcher : Matcher) (registry : Registry) (view : ComponentView) :
    FailsAs registry.Complains (matcher.candidates registry view) := by
  intro failure failed
  have evaluated := Failure.map_eq_error_iff.mp failed
  obtain ⟨pattern, listed, rule, plucked, complains⟩ :=
    failsAs_evaluateAll view registry.component.values failure evaluated
  obtain ⟨⟨name, _⟩, entry, rfl⟩ := List.mem_map.mp listed
  exact ⟨name, rule, .inl ⟨_, Roster.get?_eq_some_of_mem entry, plucked⟩, complains⟩

theorem failsAs_extract (registry : Registry) (view : ComponentView) :
    FailsAs registry.Complains (extract registry view) := by
  intro failure failed
  obtain ⟨pattern, listed, rule, plucked, complains⟩ :=
    failsAs_extractAll view (standalone registry) failure failed
  obtain ⟨⟨name, _⟩, entry, rfl⟩ := List.mem_map.mp listed
  have registered := Roster.get?_eq_some_of_mem (List.mem_filter.mp entry).1
  exact ⟨name, rule, .inr ⟨_, registered, plucked⟩, complains⟩

end Matcher

namespace Processor

theorem exists_complaint {processor : Processor} {grid : Grid} {component : Component}
    {message : String}
    (failed : (processor.classify grid component).classification.outcome = .failed message) :
    ∃ failure, processor.registry.Complains failure ∧ failure.message = message := by
  rw [classify_eq, verdict] at failed
  cases matched : processor.matcher.candidates processor.registry (grid.view component) with
  | error failure =>
      rw [matched] at failed
      exact ⟨failure, processor.matcher.failsAs_candidates _ _ failure matched,
        Outcome.failed.inj failed⟩
  | ok candidates =>
      cases taken : Matcher.extract processor.registry (grid.view component) with
      | error failure =>
          rw [matched, taken] at failed
          exact ⟨failure, Matcher.failsAs_extract _ _ failure taken, Outcome.failed.inj failed⟩
      | ok extracted =>
          rw [matched, taken] at failed
          cases candidates with
          | nil => cases failed
          | cons found rest => cases failed

/-! ## Passes -/

/-- A load continues the history of a registry by one lesson for each of its sources. -/
theorem exists_taught_loadInto {interpreter : Interpreter} {sources : List String}
    {registry last : Registry} {lessons : List Lesson} {scents : List Scent}
    (taught : Taught registry lessons)
    (loaded : loadInto interpreter registry sources = .ok (last, scents)) :
    ∃ more, Taught last (lessons ++ more) ∧ more.map Lesson.source = sources ∧
      (more.flatMap fun lesson => lesson.interpretation.scents) = scents := by
  induction sources generalizing registry lessons scents with
  | nil =>
      cases loaded
      exact ⟨[], by rwa [List.append_nil], rfl, rfl⟩
  | cons source rest induction =>
      obtain ⟨⟨next, interpretation⟩, read, loaded⟩ := Failure.bind_eq_ok_iff.mp loaded
      obtain ⟨⟨_, others⟩, behind, result⟩ := Failure.bind_eq_ok_iff.mp loaded
      cases result
      obtain ⟨more, further, sources, warnings⟩ :=
        induction (taught.read interpreter source read) behind
      rw [List.append_assoc] at further
      refine ⟨_, further, ?_, ?_⟩
      · rw [List.singleton_append, List.map_cons, sources]
      · rw [List.singleton_append, List.flatMap_cons, warnings]

/-- A message is that of an expression of the registry which is not well formed, and which the
lesson that registered it has warned of. -/
def Foretells (lessons : List Lesson) (registry : Registry) (message : String) : Prop :=
  ∃ name rule expression, registry.Plucks name rule ∧ expression ∈ rule.expressions ∧
    expression.isValid = false ∧
    (Failure.invalidPattern s!"pluck `{rule.target}`: {expression.complaint}").message = message ∧
    ∃ lesson, RegisteredBy lessons name lesson ∧ lesson.registry.Plucks name rule ∧
      rule.warning name expression ∈ lesson.interpretation.scents

theorem foretells_of_complains {registry : Registry} {lessons : List Lesson}
    (taught : Taught registry lessons) {failure : Failure}
    (complains : registry.Complains failure) : Foretells lessons registry failure.message := by
  obtain ⟨name, rule, plucks, expression, invalid, rfl⟩ := complains
  obtain ⟨lesson, registered, held, warned⟩ := taught.exists_registeredBy plucks
  obtain ⟨listed, malformed⟩ := List.mem_filter.mp invalid
  exact ⟨name, rule, expression, plucks, listed, by simpa using malformed, rfl, lesson,
    registered, held, warned expression invalid⟩

/-- If a pass records that classification has failed, then because of an expression in the
registry that is not well formed, and the lesson that put it there has left a scent about it.  So
a history without such scents lets no classification fail. -/
theorem process_foretold {processor : Processor} {given : Option Grid} {context : Context}
    {components : List Component} {lessons : List Lesson}
    (taught : Taught processor.registry lessons)
    (succeeded : (processor.process given context).result = .ok components) :
    ∃ after loaded, processor.process given context = after ∧
      Taught after.processor.registry (lessons ++ loaded) ∧
      loaded.map Lesson.source = context.sources ∧
      processor.load context.sources = .ok (after.processor.registry,
        loaded.flatMap fun lesson => lesson.interpretation.scents) ∧
      (∀ classification ∈ after.context.classification, ∀ message,
        classification.outcome = .failed message →
          Foretells (lessons ++ loaded) after.processor.registry message) ∧
      ((∀ lesson ∈ lessons ++ loaded, ∀ (name : String) (rule : PluckRule)
          (expression : Expression),
            rule.warning name expression ∉ lesson.interpretation.scents) →
        ∀ classification ∈ after.context.classification, ∀ message,
          classification.outcome ≠ .failed message) := by
  obtain ⟨registry, scents, grid, listed, loaded, found, present, valid⟩ :=
    of_process_ok succeeded
  obtain ⟨more, further, sources, rfl⟩ := exists_taught_loadInto taught loaded
  have foretold : ∀ classification ∈ (processor.process given context).context.classification,
      ∀ message, classification.outcome = .failed message →
        Foretells (lessons ++ more) registry message := by
    rw [process_eq loaded found present valid]
    intro classification recorded message failed
    obtain ⟨classified, member, rfl⟩ := List.mem_map.mp recorded
    obtain ⟨component, _, rfl⟩ := List.mem_map.mp member
    obtain ⟨failure, complains, rfl⟩ := exists_complaint failed
    exact foretells_of_complains further complains
  have kept : (processor.process given context).processor.registry = registry := by
    rw [process_eq loaded found present valid]
  refine ⟨_, more, rfl, ?_, sources, ?_, ?_, ?_⟩
  · rw [kept]
    exact further
  · rw [kept]
    exact loaded
  · rw [kept]
    exact foretold
  · intro silent classification recorded message failed
    obtain ⟨name, rule, expression, _, _, _, _, lesson, registered, _, warned⟩ :=
      foretold classification recorded message failed
    exact silent lesson registered.mem name rule expression warned

/-- The message about the second of the components with borders. -/
def unclosed : String :=
  "Invalid pattern: pluck `title`: invalid regex `(`: <regex error>"

/-- A pass that declares the other pattern again. -/
def relabelled : Context :=
  { components := some mixed, sources := [labelling] }

theorem process_foretold_relabelled :
    ∃ registry interpretation after loaded classification,
      ({} : Interpreter).interpret faulty Registry.empty = .ok (registry, interpretation) ∧
      ({ registry := registry } : Processor).process (some borders) relabelled = after ∧
      Taught after.processor.registry (⟨faulty, registry, interpretation⟩ :: loaded) ∧
      loaded.map Lesson.source = [labelling] ∧
      classification ∈ after.context.classification ∧
      classification.outcome = .failed unclosed ∧
      Foretells (⟨faulty, registry, interpretation⟩ :: loaded) after.processor.registry
        unclosed := by
  have evaluated : (({} : Interpreter).interpret faulty Registry.empty >>= fun read =>
      (({ registry := read.1 } : Processor).process (some borders) relabelled).result.map fun _ =>
        (({ registry := read.1 } : Processor).process (some borders)
          relabelled).context.classification.map Classification.warning?) =
      .ok [none, some ⟨.matchComponents, "w", unclosed⟩, none] := by
    decide +kernel
  obtain ⟨⟨registry, interpretation⟩, read, evaluated⟩ := Failure.bind_eq_ok_iff.mp evaluated
  obtain ⟨components, succeeded, warnings⟩ := Failure.map_eq_ok_iff.mp evaluated
  have taught : Taught registry [⟨faulty, registry, interpretation⟩] :=
    Taught.nothing.read {} faulty read
  obtain ⟨after, loaded, rfl, further, sources, _, foretold, _⟩ :=
    process_foretold taught succeeded
  have recorded := List.mem_of_getElem? (congrArg (fun listed => listed[1]?) warnings)
  obtain ⟨classification, member, warned⟩ := List.mem_map.mp recorded
  have failed : classification.outcome = .failed unclosed := by
    rw [Classification.warning?] at warned
    cases outcome : classification.outcome with
    | failed message =>
        rw [outcome] at warned
        exact congrArg Outcome.failed (congrArg Scent.message (Option.some.inj warned))
    | matched pattern componentType confidence =>
        rw [outcome] at warned
        cases warned
    | unmatched =>
        rw [outcome] at warned
        cases warned
  exact ⟨registry, interpretation, _, loaded, classification, read, rfl, further, sources, member,
    failed, foretold classification member unclosed failed⟩

end Processor

end ScreenSight
