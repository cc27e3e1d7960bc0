import ScreenSight.Proofs.Hunt.Registry
import ScreenSight.Recognition.Processor

/-!
# Loading sources

What sources mean does not depend on the registry into which they are loaded:
the blocks of all of them are compiled, and then installed in order.  Loading the
same sources again therefore runs the same assignments again.
-/

namespace ScreenSight

open Hunt

/-- The patterns of all blocks of some sources, with the scents that they leave. -/
def Hunt.Interpreter.compileSources (interpreter : Interpreter) :
    List String → Except Failure (List (Definition × List Scent))
  | [] => .ok []
  | source :: rest => do
      let compiled ← interpreter.compileAll source
      let others ← interpreter.compileSources rest
      return compiled ++ others

/-- What the blocks of some sources define, if the sources have no problem. -/
def Hunt.Interpreter.definitions (interpreter : Interpreter) (sources : List String) :
    List Definition :=
  match interpreter.compileSources sources with
  | .ok compiled => compiled.map Prod.fst
  | .error _ => []

namespace Processor

/-- Loading compiles the sources, whatever the registry, and installs their
blocks. -/
theorem loadInto_eq (interpreter : Interpreter) (registry : Registry)
    (sources : List String) :
    loadInto interpreter registry sources =
      (interpreter.compileSources sources).map fun compiled =>
        (registry.installAll (compiled.map Prod.fst), compiled.flatMap Prod.snd) := by
  induction sources generalizing registry with
  | nil => rfl
  | cons source rest induction =>
      simp only [loadInto, Interpreter.interpret, Interpreter.compileSources]
      cases interpreter.compileAll source with
      | error failure => rfl
      | ok compiled =>
          change (loadInto interpreter
            ((compiled.map Prod.fst).foldl Registry.install registry) rest >>= _) = _
          rw [induction]
          cases interpreter.compileSources rest with
          | error failure => rfl
          | ok others =>
              simp [Except.map, Registry.installAll, bind, Except.bind, pure, Except.pure]

/-- A load that succeeds installs the blocks of its sources, and it succeeds from
every registry with the same scents. -/
theorem load_eq_ok {processor : Processor} {sources : List String} {registry : Registry}
    {scents : List Scent} (loaded : processor.load sources = .ok (registry, scents)) :
    registry = processor.registry.installAll (processor.interpreter.definitions sources) ∧
      ∀ other, { processor with registry := other }.load sources =
        .ok (other.installAll (processor.interpreter.definitions sources), scents) := by
  rw [load, loadInto_eq] at loaded
  simp only [load, loadInto_eq, Interpreter.definitions]
  cases compiled : processor.interpreter.compileSources sources with
  | error failure =>
      rw [compiled] at loaded
      cases loaded
  | ok compiled' =>
      rw [compiled] at loaded
      cases loaded
      exact ⟨rfl, fun _ => rfl⟩

/-- Loading sources again leaves the same patterns under the same names, but it
puts the names that some block of the sources clears behind the others, kind by
kind.  It changes nothing just where they stand there already, which they do
after a second load. -/
theorem load_again {processor : Processor} {sources : List String} {registry : Registry}
    {scents : List Scent} (loaded : processor.load sources = .ok (registry, scents)) :
    ∃ again,
      { processor with registry := registry }.load sources = .ok (again, scents) ∧
      again.SamePatterns registry ∧
      (∀ kind, again.names kind =
        ((registry.names kind).filter fun name =>
          !Registry.clears (processor.interpreter.definitions sources) kind name) ++
        (registry.names kind).filter
          (Registry.clears (processor.interpreter.definitions sources) kind)) ∧
      (again = registry ↔
        ∀ kind, registry.IsSettled (processor.interpreter.definitions sources) kind) ∧
      { processor with registry := again }.load sources = .ok (again, scents) := by
  obtain ⟨rfl, reload⟩ := load_eq_ok loaded
  refine ⟨_, reload _, ?_, ?_, ?_, ?_⟩
  · exact Registry.samePatterns_installAll_twice _ _
  · exact Registry.names_installAll_twice _ _
  · exact Registry.installAll_twice_iff _ _
  · rw [reload, Registry.installAll_thrice]

/-- The names of all kinds in order. -/
def namesOf (registry : Registry) : List (List String) :=
  [PatternKind.tracking, .extraction, .component, .relationship].map registry.names

/-- The names after one load of some sources and after another one. -/
def ordersOf (processor : Processor) (sources : List String) :
    Option (List (List String) × List (List String)) :=
  match processor.load sources with
  | .error _ => none
  | .ok (registry, _) =>
      match { processor with registry := registry }.load sources with
      | .error _ => none
      | .ok (again, _) => some (namesOf registry, namesOf again)

theorem of_ordersOf {processor : Processor} {sources : List String}
    {before after : List (List String)}
    (orders : ordersOf processor sources = some (before, after)) :
    ∃ registry scents again,
      processor.load sources = .ok (registry, scents) ∧
      { processor with registry := registry }.load sources = .ok (again, scents) ∧
      again.SamePatterns registry ∧ namesOf registry = before ∧ namesOf again = after := by
  rw [ordersOf] at orders
  cases loaded : processor.load sources with
  | error failure =>
      rw [loaded] at orders
      cases orders
  | ok result =>
      obtain ⟨registry, scents⟩ := result
      obtain ⟨rfl, reload⟩ := load_eq_ok loaded
      simp only [loaded, reload, Option.some.injEq, Prod.mk.injEq] at orders
      exact ⟨_, scents, _, rfl, reload _, Registry.samePatterns_installAll_twice _ _, orders⟩

/-- Sources that leave the names in the same order again change nothing. -/
theorem load_again_of_ordersOf {processor : Processor} {sources : List String}
    {order : List (List String)}
    (orders : ordersOf processor sources = some (order, order)) :
    ∃ registry scents,
      processor.load sources = .ok (registry, scents) ∧
      { processor with registry := registry }.load sources = .ok (registry, scents) := by
  obtain ⟨registry, scents, again, loaded, reloaded, same, before, after⟩ :=
    of_ordersOf orders
  have unchanged : again = registry := by
    apply Registry.ext_of_samePatterns same
    have names := after.trans before.symm
    simp only [namesOf, List.map_cons, List.map_nil, List.cons.injEq] at names
    intro kind
    cases kind with
    | tracking => exact names.1
    | extraction => exact names.2.1
    | component => exact names.2.2.1
    | relationship => exact names.2.2.2.1
  rw [unchanged] at reloaded
  exact ⟨registry, scents, loaded, reloaded⟩

/-- The first block of this source clears the name that the second one takes. -/
def rearranging : String :=
  "<hunt a:[INIT GATHER=\x7bparam tag:x=(val v)\x7d]><EXEC>" ++
    "<hunt a:[INIT GATHER=\x7bparam tag:list=(val v)\x7d]><EXEC>" ++
    "<hunt b:[INIT GATHER=\x7bparam tag:list=(val v)\x7d]><EXEC>"

theorem ordersOf_rearranging :
    ordersOf {} [rearranging] =
      some ([["a", "b"], [], ["a", "b"], []], [["a", "b"], [], ["b", "a"], []]) := by
  decide +kernel

theorem load_again_rearranging :
    ∃ registry scents again,
      ({} : Processor).load [rearranging] = .ok (registry, scents) ∧
      ({ registry := registry } : Processor).load [rearranging] = .ok (again, scents) ∧
      namesOf registry = [["a", "b"], [], ["a", "b"], []] ∧
      namesOf again = [["a", "b"], [], ["b", "a"], []] ∧
      ¬ ∀ kind, registry.IsSettled (({} : Interpreter).definitions [rearranging]) kind := by
  obtain ⟨registry, scents, other, loaded, reloaded', _, before, after⟩ :=
    of_ordersOf ordersOf_rearranging
  obtain ⟨again, reloaded, _, _, unchanged, _⟩ := load_again loaded
  rw [reloaded] at reloaded'
  cases reloaded'
  refine ⟨registry, scents, other, loaded, reloaded, before, after, ?_⟩
  intro settled
  rw [unchanged.mpr settled, before] at after
  exact absurd after (by decide)

/-- A second load does not always leave the registry as it was. -/
theorem load_not_idempotent :
    ¬ ∀ (processor : Processor) (sources : List String) (registry : Registry)
        (scents : List Scent),
      processor.load sources = .ok (registry, scents) →
        { processor with registry := registry }.load sources = .ok (registry, scents) := by
  intro idempotent
  obtain ⟨registry, scents, again, loaded, reloaded, _, before, after⟩ :=
    of_ordersOf ordersOf_rearranging
  rw [idempotent {} [rearranging] registry scents loaded] at reloaded
  cases reloaded
  rw [before] at after
  exact absurd after (by decide)

end Processor

end ScreenSight
