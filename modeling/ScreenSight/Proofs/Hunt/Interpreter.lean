import Mathlib.Data.List.Nodup
import ScreenSight.Hunt.Interpreter
import ScreenSight.Proofs.Failure
import ScreenSight.Proofs.Hunt.Registry

/-!
# Sessions of an interpreter

Sources are interpreted one after the other into one registry, and names may be
declared again, with rules of other kinds.  What the registry then holds under a
name depends on the last declaration of that name alone, in each of its kinds.
-/

namespace ScreenSight.Hunt

/-- A block as it is declared. -/
structure Declaration where
  name : String
  rules : List Rule

/-- What the blocks of a source declare. -/
def declarationsOf (source : String) : Except Failure (List Declaration) := do
  let blocks ← readSource source
  blocks.mapM fun block => do
    let rules ← block.params.mapM (Rule.ofParam source)
    return ⟨block.name, rules⟩

/-- What the sources without a problem declare, one after the other. -/
def declarationsIn (sources : List String) : List Declaration :=
  sources.flatMap fun source => (declarationsOf source).toOption.getD []

/-- The rules of the last declaration of a name. -/
def lastRules? (declared : List Declaration) (name : String) : Option (List Rule) :=
  (declared.reverse.find? fun declaration => declaration.name == name).map
    Declaration.rules

theorem lastRules?_append_singleton (declared : List Declaration)
    (declaration : Declaration) (name : String) :
    lastRules? (declared ++ [declaration]) name =
      if name = declaration.name then some declaration.rules
      else lastRules? declared name := by
  rw [lastRules?, List.reverse_append, List.reverse_singleton, List.singleton_append,
    List.find?_cons]
  by_cases same : name = declaration.name
  · simp [same]
  · have differ : (declaration.name == name) = false := by
      simpa using Ne.symm same
    rw [differ, if_neg same]
    rfl

private theorem eraseDups_append_singleton (names : List String) (name : String) :
    (names ++ [name]).eraseDups =
      if name ∈ names then names.eraseDups else names.eraseDups ++ [name] := by
  rw [List.eraseDups_append]
  by_cases present : name ∈ names
  · simp [List.removeAll, present]
  · simp [List.removeAll, present, List.eraseDups_cons]

namespace Roster

variable {α : Type}

theorem get?_eq_some_of_mem {roster : Roster α} {entry : String × α}
    (member : entry ∈ roster.entries) : roster.get? entry.1 = some entry.2 := by
  have distinct := roster.distinct
  rw [get?_eq_findIn]
  generalize roster.entries = entries at member distinct
  induction entries with
  | nil => cases member
  | cons head tail induction =>
      rw [List.map_cons, List.nodup_cons] at distinct
      rw [SortedMap.findIn_cons]
      rcases List.mem_cons.mp member with rfl | later
      · simp
      · have differ : head.1 ≠ entry.1 := by
          intro same
          exact distinct.1 (same ▸ List.mem_map_of_mem later)
        rw [if_neg differ]
        exact induction later distinct.2

/-- Things that stand under their own names list these names. -/
theorem map_values_eq_names {roster : Roster α} {label : α → String}
    (own : ∀ name value, roster.get? name = some value → label value = name) :
    roster.values.map label = roster.names := by
  rw [values, names, List.map_map]
  apply List.map_congr_left
  intro entry member
  exact own entry.1 entry.2 (get?_eq_some_of_mem member)

end Roster

namespace Interpreter

/-! ## The patterns of a block -/

section

variable (interpreter : Interpreter) (name : String) (line : Nat) (rules : List Rule)

theorem component_define_iff (pattern : ComponentPattern) :
    (interpreter.define name line rules).component = some pattern ↔
      ∃ tag tags, rules.filterMap Rule.tag? = tag :: tags ∧
        interpreter.knows tag.target = true ∧
        pattern = ⟨name, tag.target, tag :: tags, rules.filterMap Rule.pluck?⟩ := by
  simp only [define, componentType?]
  cases rules.filterMap Rule.tag? with
  | nil => simp
  | cons tag tags =>
      rw [List.head?_cons, Option.map_some]
      by_cases known : interpreter.knows tag.target = true
      · rw [Option.filter_some_pos known, Option.map_some, Option.some.injEq]
        constructor
        · rintro rfl
          exact ⟨tag, tags, rfl, known, rfl⟩
        · rintro ⟨_, _, same, _, rfl⟩
          cases same
          rfl
      · rw [Option.filter_some_neg (by simpa using known)]
        constructor
        · intro found
          cases found
        · rintro ⟨_, _, same, knownToo, _⟩
          cases same
          exact absurd knownToo known

theorem extraction_define_iff (pattern : ExtractionPattern) :
    (interpreter.define name line rules).extraction = some pattern ↔
      rules.filterMap Rule.pluck? ≠ [] ∧
        pattern = ⟨name, rules.filterMap Rule.tag?, rules.filterMap Rule.pluck?⟩ := by
  simp only [define]
  cases rules.filterMap Rule.pluck? with
  | nil => simp
  | cons pluck plucks => simp [eq_comm]

theorem relationship_define_iff (pattern : RelationshipPattern) :
    (interpreter.define name line rules).relationship = some pattern ↔
      rules.filterMap Rule.link? ≠ [] ∧
        pattern = ⟨name, rules.filterMap Rule.link?⟩ := by
  simp only [define]
  cases rules.filterMap Rule.link? with
  | nil => simp
  | cons link links => simp [eq_comm]

end

/-! ## The registry of a session -/

/-- What a registry has to hold after some declarations. -/
structure Reflects (interpreter : Interpreter) (registry : Registry)
    (declared : List Declaration) : Prop where
  order : registry.tracking.names = (declared.map Declaration.name).eraseDups
  tracking : ∀ name,
    (registry.tracking.get? name).map (fun pattern => (pattern.name, pattern.rules)) =
      (lastRules? declared name).map fun rules => (name, rules)
  component : ∀ name pattern, registry.component.get? name = some pattern ↔
    ∃ rules, lastRules? declared name = some rules ∧
      ∃ tag tags, rules.filterMap Rule.tag? = tag :: tags ∧
        interpreter.knows tag.target = true ∧
        pattern = ⟨name, tag.target, tag :: tags, rules.filterMap Rule.pluck?⟩
  extraction : ∀ name pattern, registry.extraction.get? name = some pattern ↔
    ∃ rules, lastRules? declared name = some rules ∧
      rules.filterMap Rule.pluck? ≠ [] ∧
      pattern = ⟨name, rules.filterMap Rule.tag?, rules.filterMap Rule.pluck?⟩
  relationship : ∀ name pattern, registry.relationship.get? name = some pattern ↔
    ∃ rules, lastRules? declared name = some rules ∧
      rules.filterMap Rule.link? ≠ [] ∧
      pattern = ⟨name, rules.filterMap Rule.link?⟩

theorem Reflects.empty (interpreter : Interpreter) :
    Reflects interpreter Registry.empty [] where
  order := rfl
  tracking _ := rfl
  component := by simp [Registry.empty, Roster.empty, Roster.get?, lastRules?]
  extraction := by simp [Registry.empty, Roster.empty, Roster.get?, lastRules?]
  relationship := by simp [Registry.empty, Roster.empty, Roster.get?, lastRules?]

variable {interpreter : Interpreter} {registry : Registry} {declared : List Declaration}

/-- Installing one more block keeps up with its declaration. -/
theorem Reflects.install (reflects : Reflects interpreter registry declared)
    (name : String) (line : Nat) (rules : List Rule) :
    Reflects interpreter (registry.install (interpreter.define name line rules))
      (declared ++ [⟨name, rules⟩]) := by
  constructor
  case order =>
    change (registry.tracking.register name _).names = _
    rw [List.map_append, List.map_singleton, eraseDups_append_singleton, ← reflects.order]
    have known : name ∈ registry.tracking.names ↔ name ∈ declared.map Declaration.name := by
      rw [reflects.order, List.mem_eraseDups]
    by_cases present : name ∈ registry.tracking.names
    · rw [Roster.names_register_of_mem present, if_pos (known.mp present)]
    · rw [Roster.names_register_of_not_mem present,
        if_neg fun declaredBefore => present (known.mpr declaredBefore)]
  case tracking =>
    intro other
    change ((registry.tracking.register name _).get? other).map _ = _
    rw [Roster.get?_register, lastRules?_append_singleton]
    by_cases same : other = name
    · simp [same, define]
    · simpa [same] using reflects.tracking other
  case component =>
    intro other pattern
    change (registry.component.assign name _).get? other = some pattern ↔ _
    rw [Roster.get?_assign, lastRules?_append_singleton]
    by_cases same : other = name
    · simp only [same, if_true, component_define_iff, Option.some.injEq, exists_eq_left']
    · simpa [same] using reflects.component other pattern
  case extraction =>
    intro other pattern
    change (registry.extraction.assign name _).get? other = some pattern ↔ _
    rw [Roster.get?_assign, lastRules?_append_singleton]
    by_cases same : other = name
    · simp only [same, if_true, extraction_define_iff, Option.some.injEq, exists_eq_left']
    · simpa [same] using reflects.extraction other pattern
  case relationship =>
    intro other pattern
    change (registry.relationship.assign name _).get? other = some pattern ↔ _
    rw [Roster.get?_assign, lastRules?_append_singleton]
    by_cases same : other = name
    · simp only [same, if_true, relationship_define_iff, Option.some.injEq,
        exists_eq_left']
    · simpa [same] using reflects.relationship other pattern

/-! ## Sources -/

/-- The declaration that a definition comes from. -/
def declarationOf (definition : Definition) : Declaration :=
  ⟨definition.name, definition.tracking.rules⟩

/-- A source has the same problem, if any, whether its blocks are compiled or only
their declarations are read. -/
theorem map_compileAll (interpreter : Interpreter) (source : String) :
    (interpreter.compileAll source).map
        (fun compiled => compiled.map fun block => declarationOf block.1) =
      declarationsOf source := by
  rw [compileAll, declarationsOf]
  cases readSource source with
  | error failure => rfl
  | ok blocks =>
      change (blocks.mapM (interpreter.compile source)).map _ = blocks.mapM _
      induction blocks with
      | nil => rfl
      | cons block rest induction =>
          rw [List.mapM_cons, List.mapM_cons, ← induction, compile]
          cases block.params.mapM (Rule.ofParam source) with
          | error failure => rfl
          | ok rules =>
              cases rest.mapM (interpreter.compile source) with
              | error failure => rfl
              | ok others => rfl

/-- Whatever is compiled is defined by rules. -/
theorem exists_define_of_compileAll {source : String}
    {compiled : List (Definition × List Scent)}
    (succeeded : interpreter.compileAll source = .ok compiled)
    {definition : Definition} (member : definition ∈ compiled.map Prod.fst) :
    ∃ name line rules, definition = interpreter.define name line rules := by
  obtain ⟨blocks, _, mapped⟩ := Failure.bind_eq_ok_iff.mp succeeded
  obtain ⟨made, present, rfl⟩ := List.mem_map.mp member
  obtain ⟨block, _, blockOk⟩ := Failure.exists_of_mem_mapM mapped present
  obtain ⟨rules, _, result⟩ := Failure.bind_eq_ok_iff.mp blockOk
  cases result
  exact ⟨_, _, _, rfl⟩

theorem Reflects.installAll {definitions : List Definition}
    (reflects : Reflects interpreter registry declared)
    (defined : ∀ definition ∈ definitions,
      ∃ name line rules, definition = interpreter.define name line rules) :
    Reflects interpreter (registry.installAll definitions)
      (declared ++ definitions.map declarationOf) := by
  induction definitions generalizing registry declared with
  | nil =>
      rw [List.map_nil, List.append_nil]
      exact reflects
  | cons definition rest induction =>
      obtain ⟨name, line, rules, rfl⟩ := defined definition List.mem_cons_self
      have installed := reflects.install name line rules
      have others := induction installed fun other member =>
        defined other (List.mem_cons_of_mem _ member)
      rw [List.append_assoc] at others
      exact others

/-- The registry after an attempt to interpret a source. -/
def attempt (interpreter : Interpreter) (registry : Registry) (source : String) : Registry :=
  match interpreter.interpret source registry with
  | .ok (next, _) => next
  | .error _ => registry

/-- The registry after attempts to interpret some sources one after the other. -/
def attemptAll (interpreter : Interpreter) (registry : Registry) (sources : List String) :
    Registry :=
  sources.foldl interpreter.attempt registry

theorem map_interpret (interpreter : Interpreter) (registry : Registry) (source : String) :
    (interpreter.interpret source registry).map (fun result => result.2.registered) =
      (declarationsOf source).map fun declared => declared.map Declaration.name := by
  rw [interpret, ← interpreter.map_compileAll]
  cases interpreter.compileAll source with
  | error failure => rfl
  | ok compiled =>
      simp only [Except.map, bind, Except.bind, pure, Except.pure, List.map_map]
      rfl

theorem Reflects.attempt (reflects : Reflects interpreter registry declared)
    (source : String) :
    Reflects interpreter (interpreter.attempt registry source)
      (declared ++ (declarationsOf source).toOption.getD []) := by
  rw [Interpreter.attempt, interpret, ← interpreter.map_compileAll]
  cases compiled : interpreter.compileAll source with
  | error failure =>
      have nothing : declared ++ [] = declared := List.append_nil declared
      rw [← nothing] at reflects
      exact reflects
  | ok blocks =>
      have installed := reflects.installAll fun _ member =>
        exists_define_of_compileAll compiled member
      rw [List.map_map] at installed
      exact installed

theorem Reflects.attemptAll (reflects : Reflects interpreter registry declared)
    (sources : List String) :
    Reflects interpreter (interpreter.attemptAll registry sources)
      (declared ++ declarationsIn sources) := by
  induction sources generalizing registry declared with
  | nil =>
      have nothing : declared ++ declarationsIn [] = declared := List.append_nil declared
      rw [nothing]
      exact reflects
  | cons source rest induction =>
      have first := reflects.attempt source
      have others := induction first
      rw [List.append_assoc] at others
      exact others

/-! ## Names -/

theorem mem_names_tracking_iff (reflects : Reflects interpreter registry declared)
    (name : String) :
    name ∈ registry.tracking.names ↔ (lastRules? declared name).isSome = true := by
  have found := congrArg Option.isSome (reflects.tracking name)
  rw [Option.isSome_map, Option.isSome_map] at found
  rw [← Roster.get?_isSome_iff, found]

/-- Every name of a session is a name of a tracking pattern. -/
theorem Reflects.names_subset (reflects : Reflects interpreter registry declared)
    (kind : PatternKind) : registry.names kind ⊆ registry.names .tracking := by
  intro name member
  have declaredAs : ∃ rules, lastRules? declared name = some rules := by
    cases kind with
    | tracking => exact Option.isSome_iff_exists.mp ((mem_names_tracking_iff reflects name).mp member)
    | extraction =>
        obtain ⟨pattern, found⟩ := Option.isSome_iff_exists.mp (Roster.get?_isSome_iff.mpr member)
        obtain ⟨rules, last, _⟩ := (reflects.extraction name pattern).mp found
        exact ⟨rules, last⟩
    | component =>
        obtain ⟨pattern, found⟩ := Option.isSome_iff_exists.mp (Roster.get?_isSome_iff.mpr member)
        obtain ⟨rules, last, _⟩ := (reflects.component name pattern).mp found
        exact ⟨rules, last⟩
    | relationship =>
        obtain ⟨pattern, found⟩ := Option.isSome_iff_exists.mp (Roster.get?_isSome_iff.mpr member)
        obtain ⟨rules, last, _⟩ := (reflects.relationship name pattern).mp found
        exact ⟨rules, last⟩
  exact (mem_names_tracking_iff reflects name).mpr (Option.isSome_iff_exists.mpr declaredAs)

/-- The patterns of a registry stand under their own names. -/
structure KeyedByName (registry : Registry) : Prop where
  tracking : registry.tracking.values.map TrackingPattern.name = registry.tracking.names
  extraction : registry.extraction.values.map ExtractionPattern.name =
    registry.extraction.names
  component : registry.component.values.map ComponentPattern.name = registry.component.names
  relationship : registry.relationship.values.map RelationshipPattern.name =
    registry.relationship.names

theorem Reflects.keyedByName (reflects : Reflects interpreter registry declared) :
    KeyedByName registry := by
  constructor
  case tracking =>
    apply Roster.map_values_eq_names
    intro name pattern found
    have shown := reflects.tracking name
    rw [found] at shown
    obtain ⟨rules, _, same⟩ := Option.map_eq_some_iff.mp shown.symm
    exact (congrArg Prod.fst same).symm
  case extraction =>
    apply Roster.map_values_eq_names
    intro name pattern found
    obtain ⟨_, _, _, rfl⟩ := (reflects.extraction name pattern).mp found
    rfl
  case component =>
    apply Roster.map_values_eq_names
    intro name pattern found
    obtain ⟨_, _, _, _, _, _, rfl⟩ := (reflects.component name pattern).mp found
    rfl
  case relationship =>
    apply Roster.map_values_eq_names
    intro name pattern found
    obtain ⟨_, _, _, rfl⟩ := (reflects.relationship name pattern).mp found
    rfl

/-- A session that began with an empty registry shows the last declaration of every
name, whatever was declared before and whichever sources had a problem. -/
theorem attemptAll_reflects (interpreter : Interpreter) (sources : List String) :
    Reflects interpreter (interpreter.attemptAll Registry.empty sources)
        (declarationsIn sources) ∧
      KeyedByName (interpreter.attemptAll Registry.empty sources) ∧
      (∀ kind, (interpreter.attemptAll Registry.empty sources).names kind ⊆
        (interpreter.attemptAll Registry.empty sources).names .tracking) ∧
      ∀ source registry,
        (interpreter.interpret source registry).map (fun result => result.2.registered) =
          (declarationsOf source).map fun declared => declared.map Declaration.name := by
  have reflects := (Reflects.empty interpreter).attemptAll sources
  rw [List.nil_append] at reflects
  exact ⟨reflects, reflects.keyedByName, reflects.names_subset, fun source registry =>
    interpreter.map_interpret registry source⟩

/-! ## Problems -/

/-- Whether a failure is a problem of a source. -/
def IsMalformed (failure : Failure) : Prop :=
  ∃ line column message, failure = .malformedSource line column message

open Failure (FailsAs)

theorem failsAs_readSource (source : String) :
    FailsAs IsMalformed (readSource source) := by
  rw [readSource]
  cases blocksOf source with
  | ok blocks => exact FailsAs.ok blocks
  | error problem => exact FailsAs.error ⟨_, _, _, rfl⟩

theorem failsAs_ofParam (source : String) (param : Param) :
    FailsAs IsMalformed (Rule.ofParam source param) := by
  rw [Rule.ofParam]
  cases param.kind with
  | tag => exact FailsAs.ok _
  | pluck => exact FailsAs.ok _
  | link =>
      cases LinkRule.ofValues param.target param.values with
      | ok rule => exact FailsAs.ok _
      | error problem => exact FailsAs.error ⟨_, _, _, rfl⟩

/-- Interpreting a source only fails with a problem of the source. -/
theorem failsAs_interpret (interpreter : Interpreter) (source : String)
    (registry : Registry) : FailsAs IsMalformed (interpreter.interpret source registry) := by
  apply FailsAs.bind
  · apply FailsAs.bind (failsAs_readSource source)
    intro blocks
    apply FailsAs.mapM
    intro block
    apply FailsAs.bind
    · exact FailsAs.mapM (failsAs_ofParam source) block.params
    · intro rules
      exact FailsAs.ok _
  · intro compiled
    exact FailsAs.ok _

end Interpreter

end ScreenSight.Hunt
