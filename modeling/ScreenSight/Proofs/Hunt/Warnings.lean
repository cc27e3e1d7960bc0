import ScreenSight.Proofs.Hunt.Joining

/-!
# Warnings about expressions

An expression that is not well formed does not keep its source from being interpreted; it
only leaves a scent.  So a registry that was filled by interpreting sources holds no such
expression without a warning: the last source that registered the name of its pattern
has left a scent that names the pattern, the rule and the expression.
-/

namespace ScreenSight.Hunt

/-! ## Pluck rules under a name -/

/-- A pattern under a name takes values by a rule. -/
def Registry.Plucks (registry : Registry) (name : String) (rule : PluckRule) : Prop :=
  (∃ pattern, registry.component.get? name = some pattern ∧ rule ∈ pattern.plucks) ∨
    ∃ pattern, registry.extraction.get? name = some pattern ∧ rule ∈ pattern.plucks

/-- A pattern of a block takes values by a rule. -/
def Definition.Plucks (definition : Definition) (rule : PluckRule) : Prop :=
  (∃ pattern, definition.component = some pattern ∧ rule ∈ pattern.plucks) ∨
    ∃ pattern, definition.extraction = some pattern ∧ rule ∈ pattern.plucks

theorem Registry.not_plucks_empty {name : String} {rule : PluckRule} :
    ¬Registry.empty.Plucks name rule := by
  rintro (⟨pattern, found, _⟩ | ⟨pattern, found, _⟩)
  · cases found
  · cases found

/-- A block takes its name away from the pluck rules that were there before. -/
theorem Registry.plucks_install_iff {registry : Registry} {definition : Definition}
    {name : String} {rule : PluckRule} :
    (registry.install definition).Plucks name rule ↔
      if name = definition.name then definition.Plucks rule else registry.Plucks name rule := by
  have component := Roster.get?_assign registry.component definition.name name
    definition.component
  have extraction := Roster.get?_assign registry.extraction definition.name name
    definition.extraction
  rw [Plucks, install, component, extraction]
  split <;> rfl

theorem Registry.plucks_of_installAll {registry : Registry} {definitions : List Definition}
    {name : String} {rule : PluckRule}
    (plucks : (registry.installAll definitions).Plucks name rule) :
    (name ∉ definitions.map Definition.name ∧ registry.Plucks name rule) ∨
      ∃ definition ∈ definitions, definition.name = name ∧ definition.Plucks rule := by
  induction definitions generalizing registry with
  | nil => exact .inl ⟨List.not_mem_nil, plucks⟩
  | cons definition rest induction =>
      rcases induction plucks with ⟨untouched, before⟩ | ⟨other, listed, named, holds⟩
      · rw [plucks_install_iff] at before
        split at before
        · next same => exact .inr ⟨definition, List.mem_cons_self, same.symm, before⟩
        · next differ =>
            refine .inl ⟨?_, before⟩
            rw [List.map_cons]
            exact List.not_mem_cons_of_ne_of_not_mem differ untouched
      · exact .inr ⟨other, List.mem_cons_of_mem _ listed, named, holds⟩

/-! ## Scents of expressions -/

/-- The scent that an expression of a rule leaves if it is not well formed. -/
def PluckRule.warning (rule : PluckRule) (name : String) (expression : Expression) : Scent :=
  ⟨.load, name, s!"pluck `{rule.target}` has an {expression.complaint}"⟩

namespace Interpreter

variable {interpreter : Interpreter} {source : String}

theorem mem_expressionScents_iff {name : String} {plucks : List PluckRule} {scent : Scent} :
    scent ∈ expressionScents name plucks ↔
      ∃ rule ∈ plucks, ∃ expression ∈ rule.invalid, rule.warning name expression = scent := by
  simp only [expressionScents, List.mem_flatMap, List.mem_map]
  rfl

theorem mem_plucks_of_define {name : String} {line : Nat} {rules : List Rule}
    {rule : PluckRule} (plucks : (interpreter.define name line rules).Plucks rule) :
    rule ∈ rules.filterMap Rule.pluck? := by
  rcases plucks with ⟨pattern, defined, listed⟩ | ⟨pattern, defined, listed⟩
  · obtain ⟨_, _, _, _, rfl⟩ := (component_define_iff ..).mp defined
    exact listed
  · obtain ⟨_, rfl⟩ := (extraction_define_iff ..).mp defined
    exact listed

/-- A block leaves a scent for each expression of its rules that is not well formed. -/
theorem warning_mem_of_compile {block : Block} {definition : Definition} {scents : List Scent}
    (succeeded : interpreter.compile source block = .ok (definition, scents))
    {rule : PluckRule} (plucks : definition.Plucks rule) {expression : Expression}
    (invalid : expression ∈ rule.invalid) : rule.warning definition.name expression ∈ scents := by
  obtain ⟨rules, _, result⟩ := Failure.bind_eq_ok_iff.mp succeeded
  cases result
  apply List.mem_append_left
  exact mem_expressionScents_iff.mpr
    ⟨rule, mem_plucks_of_define plucks, expression, invalid, rfl⟩

/-- The pluck rules under a name are those from before the source, or the source has
registered the name and left the scents of their expressions. -/
theorem plucks_of_interpret {registry next : Registry} {interpretation : Interpretation}
    (succeeded : interpreter.interpret source registry = .ok (next, interpretation))
    {name : String} {rule : PluckRule} (plucks : next.Plucks name rule) :
    (name ∉ interpretation.registered ∧ registry.Plucks name rule) ∨
      (name ∈ interpretation.registered ∧
        ∀ expression ∈ rule.invalid, rule.warning name expression ∈ interpretation.scents) := by
  obtain ⟨compiled, read, rfl, rfl⟩ := interpret_eq_ok_iff.mp succeeded
  rcases Registry.plucks_of_installAll plucks with before | ⟨definition, listed, rfl, holds⟩
  · exact .inl before
  · refine .inr ⟨List.mem_map_of_mem listed, ?_⟩
    intro expression invalid
    obtain ⟨blocks, _, mapped⟩ := Failure.bind_eq_ok_iff.mp read
    obtain ⟨made, present, rfl⟩ := List.mem_map.mp listed
    obtain ⟨block, _, blockOk⟩ := Failure.exists_of_mem_mapM mapped present
    exact List.mem_flatMap.mpr ⟨made, present, warning_mem_of_compile blockOk holds invalid⟩

end Interpreter

/-! ## Histories -/

/-- A source that was interpreted, with what it has brought and the registry after it. -/
structure Lesson where
  source : String
  registry : Registry
  interpretation : Interpretation

/-- A registry has been filled by some lessons, each with whichever interpreter.  A source that
has a problem leaves the registry as it is and is no lesson. -/
inductive Taught : Registry → List Lesson → Prop where
  | nothing : Taught Registry.empty []
  | read {registry next : Registry} {lessons : List Lesson}
      {interpretation : Interpretation} (taught : Taught registry lessons)
      (interpreter : Interpreter) (source : String)
      (succeeded : interpreter.interpret source registry = .ok (next, interpretation)) :
      Taught next (lessons ++ [⟨source, next, interpretation⟩])

/-- A lesson is the last one that has registered a name. -/
def RegisteredBy (lessons : List Lesson) (name : String) (lesson : Lesson) : Prop :=
  ∃ earlier later, lessons = earlier ++ lesson :: later ∧
    name ∈ lesson.interpretation.registered ∧
    ∀ other ∈ later, name ∉ other.interpretation.registered

theorem RegisteredBy.mem {lessons : List Lesson} {name : String} {lesson : Lesson}
    (last : RegisteredBy lessons name lesson) : lesson ∈ lessons := by
  obtain ⟨earlier, later, rfl, _⟩ := last
  exact List.mem_append_right earlier List.mem_cons_self

/-- A lesson that does not register a name leaves it to an earlier one. -/
theorem RegisteredBy.append_singleton {lessons : List Lesson} {name : String}
    {lesson other : Lesson} (last : RegisteredBy lessons name lesson)
    (untouched : name ∉ other.interpretation.registered) :
    RegisteredBy (lessons ++ [other]) name lesson := by
  obtain ⟨earlier, later, rfl, registered, notLater⟩ := last
  refine ⟨earlier, later ++ [other], by simp, registered, ?_⟩
  intro between member
  rcases List.mem_append.mp member with before | single
  · exact notLater between before
  · rw [List.mem_singleton.mp single]
    exact untouched

/-- Where the pluck rules of a registry come from: the lesson that has registered their name
had them in its registry, and has left a scent for each expression that is not well formed. -/
theorem Taught.exists_registeredBy {registry : Registry} {lessons : List Lesson}
    (taught : Taught registry lessons) {name : String} {rule : PluckRule}
    (plucks : registry.Plucks name rule) :
    ∃ lesson, RegisteredBy lessons name lesson ∧ lesson.registry.Plucks name rule ∧
      ∀ expression ∈ rule.invalid,
        rule.warning name expression ∈ lesson.interpretation.scents := by
  induction taught with
  | nothing => exact absurd plucks Registry.not_plucks_empty
  | @read _ next lessons interpretation _ interpreter source succeeded induction =>
      rcases Interpreter.plucks_of_interpret succeeded plucks with
        ⟨untouched, before⟩ | ⟨registered, warned⟩
      · obtain ⟨lesson, last, held, warned⟩ := induction before
        exact ⟨lesson, last.append_singleton untouched, held, warned⟩
      · -- the lesson exchanges whatever stood under the name, so it is the last one now
        refine ⟨⟨source, next, interpretation⟩, ⟨lessons, [], rfl, registered, ?_⟩, plucks,
          warned⟩
        intro other none
        cases none

end ScreenSight.Hunt
