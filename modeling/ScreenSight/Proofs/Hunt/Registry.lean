import ScreenSight.Hunt.Registry
import ScreenSight.Proofs.Hunt.Roster

/-!
# Installing blocks again

Each kind of pattern has a roster of its own, on which a list of blocks is a run
of assignments.  A block that defines no pattern of a kind clears its name
there, and this is all that can disturb the order when the blocks are installed
again.
-/

namespace ScreenSight.Hunt

/-- Whether a block has a pattern of a kind. -/
def Definition.defines (definition : Definition) : PatternKind → Bool
  | .tracking => true
  | .extraction => definition.extraction.isSome
  | .component => definition.component.isSome
  | .relationship => definition.relationship.isSome

namespace Registry

/-- Install some blocks one after the other. -/
def installAll (registry : Registry) (definitions : List Definition) : Registry :=
  definitions.foldl install registry

/-- Whether some block has a name but no pattern of a kind. -/
def clears (definitions : List Definition) (kind : PatternKind) (name : String) : Bool :=
  definitions.any fun definition => !definition.defines kind && definition.name == name

/-- What some blocks assign on the roster of a kind. -/
def changesBy {α : Type} (pattern : Definition → Option α) (definitions : List Definition) :
    List (String × Option α) :=
  definitions.map fun definition => (definition.name, pattern definition)

/-- Whether two registries have the same patterns under the same names, in
whatever order. -/
structure SamePatterns (left right : Registry) : Prop where
  tracking : ∀ name, left.tracking.get? name = right.tracking.get? name
  extraction : ∀ name, left.extraction.get? name = right.extraction.get? name
  component : ∀ name, left.component.get? name = right.component.get? name
  relationship : ∀ name, left.relationship.get? name = right.relationship.get? name

/-- The names of a kind that some blocks clear stand behind the others. -/
def IsSettled (registry : Registry) (definitions : List Definition) (kind : PatternKind) :
    Prop :=
  (registry.names kind).Pairwise fun earlier later =>
    clears definitions kind earlier = true → clears definitions kind later = true

/-- Each kind of pattern is a run of assignments of its own. -/
theorem installAll_eq (registry : Registry) (definitions : List Definition) :
    registry.installAll definitions =
      { tracking := registry.tracking.assignAll
          (changesBy (fun definition => some definition.tracking) definitions)
        extraction := registry.extraction.assignAll
          (changesBy Definition.extraction definitions)
        component := registry.component.assignAll
          (changesBy Definition.component definitions)
        relationship := registry.relationship.assignAll
          (changesBy Definition.relationship definitions) } := by
  induction definitions generalizing registry with
  | nil => rfl
  | cons definition rest induction => exact induction (registry.install definition)

/-- A run of assignments on the roster of a kind clears what its blocks clear. -/
private theorem clears_changesBy {α : Type} (pattern : Definition → Option α)
    {kind : PatternKind} {definitions : List Definition}
    (defines : ∀ definition, definition.defines kind = (pattern definition).isSome) :
    Roster.clears (changesBy pattern definitions) = clears definitions kind := by
  funext name
  rw [Roster.clears, changesBy, List.any_map, clears]
  congr 1
  funext definition
  rw [Function.comp_apply, defines]
  cases pattern definition <;> rfl

variable (registry : Registry) (definitions : List Definition)

/-- Installing blocks again changes no pattern. -/
theorem samePatterns_installAll_twice :
    SamePatterns ((registry.installAll definitions).installAll definitions)
      (registry.installAll definitions) := by
  rw [installAll_eq, installAll_eq]
  constructor
  · exact Roster.get?_assignAll_twice registry.tracking _
  · exact Roster.get?_assignAll_twice registry.extraction _
  · exact Roster.get?_assignAll_twice registry.component _
  · exact Roster.get?_assignAll_twice registry.relationship _

/-- Installing blocks again moves the names that they clear behind the others. -/
theorem names_installAll_twice (kind : PatternKind) :
    ((registry.installAll definitions).installAll definitions).names kind =
      (((registry.installAll definitions).names kind).filter
        fun name => !clears definitions kind name) ++
      ((registry.installAll definitions).names kind).filter (clears definitions kind) := by
  rw [installAll_eq, installAll_eq]
  cases kind with
  | tracking =>
      rw [← clears_changesBy (fun definition => some definition.tracking) fun _ => rfl]
      exact Roster.names_assignAll_twice registry.tracking _
  | extraction =>
      rw [← clears_changesBy Definition.extraction fun _ => rfl]
      exact Roster.names_assignAll_twice registry.extraction _
  | component =>
      rw [← clears_changesBy Definition.component fun _ => rfl]
      exact Roster.names_assignAll_twice registry.component _
  | relationship =>
      rw [← clears_changesBy Definition.relationship fun _ => rfl]
      exact Roster.names_assignAll_twice registry.relationship _

/-- Registries with the same patterns and the same order of names are equal. -/
theorem ext_of_samePatterns {left right : Registry} (same : SamePatterns left right)
    (order : ∀ kind, left.names kind = right.names kind) : left = right := by
  have tracking := Roster.ext_get? (order .tracking) same.tracking
  have extraction := Roster.ext_get? (order .extraction) same.extraction
  have component := Roster.ext_get? (order .component) same.component
  have relationship := Roster.ext_get? (order .relationship) same.relationship
  cases left
  cases right
  simp_all only

/-- Installing blocks a third time changes nothing. -/
theorem installAll_thrice :
    ((registry.installAll definitions).installAll definitions).installAll definitions =
      (registry.installAll definitions).installAll definitions := by
  rw [installAll_eq, installAll_eq, installAll_eq]
  simp only [Roster.assignAll_thrice]

/-- Installing blocks again changes nothing if and only if the names that they
clear stand behind the others in each kind. -/
theorem installAll_twice_iff :
    (registry.installAll definitions).installAll definitions =
        registry.installAll definitions ↔
      ∀ kind, (registry.installAll definitions).IsSettled definitions kind := by
  constructor
  · intro same kind
    have order := names_installAll_twice registry definitions kind
    rw [same] at order
    exact filter_append_filter_eq_iff.mp order.symm
  · intro settled
    apply ext_of_samePatterns (samePatterns_installAll_twice registry definitions)
    intro kind
    rw [names_installAll_twice]
    exact filter_append_filter_eq_iff.mpr (settled kind)

end Registry

end ScreenSight.Hunt
