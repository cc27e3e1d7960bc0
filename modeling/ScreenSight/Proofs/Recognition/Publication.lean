import ScreenSight.Proofs.Recognition.Report

/-!
# What a pass publishes

A pass hands out its components in the order in which it was given them, and the list
of classifications runs beside them.  The classification of a component says what has
become of it: which type it has now, whether its properties were left alone, and
whether there is a warning about it.
-/

namespace ScreenSight

open Hunt
open Containment (childrenProperty parentProperty)

/-- The warning about a component, if its classification failed. -/
def Classification.warning? (classification : Classification) : Option Scent :=
  match classification.outcome with
  | .failed message => some ⟨.matchComponents, classification.id, message⟩
  | _ => none

/-- How a component has changed in a pass with some outcome. -/
def Outcome.Explains (outcome : Outcome) (before after : Component) : Prop :=
  match outcome with
  | .matched _ componentType _ => after.kind = componentType
  | .unmatched => after.kind = before.kind
  | .failed _ => after.kind = before.kind ∧
      ∀ name, name ≠ childrenProperty → name ≠ parentProperty →
        after.property? name = before.property? name

/-- A component before and after a pass, as its classification tells. -/
structure Classification.Explains (classification : Classification)
    (before after : Component) : Prop where
  id : classification.id = before.id
  outline : after.outline = before.outline
  change : classification.outcome.Explains before after

namespace Processor

theorem mem_names_notesAt {processor : Processor} {components : List Component}
    {position : Nat} {name : String}
    (member : name ∈ (processor.notesAt components position).map Prod.fst) :
    name = childrenProperty ∨ name = parentProperty := by
  rw [notesAt] at member
  cases analysis : processor.containment with
  | none =>
      rw [analysis] at member
      cases member
  | some analyzer =>
      rw [analysis] at member
      exact Component.mem_names_noteWrites member

/-! ## Components -/

section

variable (processor : Processor) (grid : Grid) (components : List Component)

theorem explains_passEdit (position : Nat) (component : Component) :
    (processor.classify grid component).classification.Explains component
      (component.apply (processor.passEdit grid components position component)) := by
  rw [classify_eq, passEdit]
  rcases processor.verdict_cases (grid.view component) with
    ⟨failure, verdict⟩ | ⟨writes, _, verdict⟩ | ⟨found, _, writes, _, verdict⟩
  · rw [verdict]
    refine ⟨rfl, rfl, rfl, ?_⟩
    intro name noChildren noParent
    apply Component.property?_apply
    intro written
    cases mem_names_notesAt written with
    | inl children => exact noChildren children
    | inr parent => exact noParent parent
  · rw [verdict]
    exact ⟨rfl, rfl, rfl⟩
  · rw [verdict]
    exact ⟨rfl, rfl, rfl⟩

theorem scent_classify (component : Component) :
    (processor.classify grid component).scent =
      (processor.classify grid component).classification.warning? := by
  rw [classify_eq]
  rcases processor.verdict_cases (grid.view component) with
    ⟨failure, verdict⟩ | ⟨writes, _, verdict⟩ | ⟨found, _, writes, _, verdict⟩
  · rw [verdict]
    rfl
  · rw [verdict]
    rfl
  · rw [verdict]
    rfl

theorem scents_classify :
    (components.map (processor.classify grid)).filterMap Classified.scent =
      ((components.map (processor.classify grid)).map
        Classified.classification).filterMap Classification.warning? := by
  rw [List.filterMap_map, List.filterMap_map, List.filterMap_map]
  apply List.filterMap_congr
  intro component _
  exact processor.scent_classify grid component

/-- The classifications run beside the components. -/
theorem exists_explains {position : Nat} {before : Component}
    (present : components[position]? = some before) :
    ∃ after classification,
      (processor.annotated grid components)[position]? = some after ∧
      ((components.map (processor.classify grid)).map
        Classified.classification)[position]? = some classification ∧
      classification.Explains before after := by
  refine ⟨_, _, ?_, ?_, processor.explains_passEdit grid components position before⟩
  · rw [getElem?_annotated, present]
    rfl
  · rw [List.getElem?_map, List.getElem?_map, present]
    rfl

end

/-! ## The whole pass -/

/-- A pass that succeeds publishes what it hands out: the components that it was given,
in their order, each beside a classification that explains how it has changed.  Its
warnings are those of the sources and then one for each classification that failed.
Whatever else the context holds stays. -/
theorem process_publishes {processor : Processor} {given : Option Grid} {context : Context}
    {components : List Component}
    (succeeded : (processor.process given context).result = .ok components) :
    ∃ registry scents listed after,
      processor.load context.sources = .ok (registry, scents) ∧
      context.components = some listed ∧
      (processor.process given context).context = after ∧
      after.components = some components ∧
      components.map Component.outline = listed.map Component.outline ∧
      after.classification.map Classification.id = listed.map Component.id ∧
      (∀ (position : Nat) (before : Component), listed[position]? = some before →
        ∃ published classification, components[position]? = some published ∧
          after.classification[position]? = some classification ∧
          classification.Explains before published) ∧
      after.scents = scents ++ after.classification.filterMap Classification.warning? ∧
      after.sources = context.sources ∧ after.grid = context.grid ∧
      after.extra = context.extra := by
  obtain ⟨registry, scents, grid, listed, loaded, found, present, valid⟩ :=
    of_process_ok succeeded
  rw [process_eq loaded found present valid] at succeeded
  have handedOut := Except.ok.inj succeeded
  subst handedOut
  refine ⟨registry, scents, listed, _, loaded, present, rfl, ?_⟩
  rw [process_eq loaded found present valid]
  refine ⟨rfl, ?_, ?_, ?_, ?_, rfl, rfl, rfl⟩
  · exact outline_annotated _ grid listed
  · exact ids_classification _ grid listed
  · intro position before
    exact exists_explains _ grid listed
  · rw [published, scents_classify]

/-- Two patterns for lists and panels; the latter plucks by an expression that is not
well formed. -/
def faulty : String :=
  "<hunt a:[INIT GATHER=\x7bparam tag:list=(val v)\x7d]><EXEC>" ++
    "<hunt b:[INIT GATHER=\x7bparam tag:panel=(val w)\x7d" ++
    "\x7bparam pluck:title=(val \"(\")\x7d]><EXEC>"

/-- Components with three kinds of borders, side by side. -/
def mixed : List Component :=
  [{ id := "v", box := some (Box.ofCorners 0 0 1 1) },
    { id := "w", kind := "box", box := some (Box.ofCorners 2 0 3 1) },
    { id := "x", box := some (Box.ofCorners 4 0 5 1) }]

def borders : Grid :=
  Grid.ofText "vvwwxx\nvvwwxx" 1

theorem process_publishes_mixed :
    let context : Context := { components := some mixed, sources := [faulty] }
    ∃ registry scents components after,
      ({} : Processor).load context.sources = .ok (registry, scents) ∧
      (({} : Processor).process (some borders) context).result = .ok components ∧
      (({} : Processor).process (some borders) context).context = after ∧
      after.components = some components ∧
      components.map Component.outline = mixed.map Component.outline ∧
      after.classification.map Classification.isMatched = [true, false, false] ∧
      after.scents = scents ++ [⟨.matchComponents, "w",
        "Invalid pattern: pluck `title`: invalid regex `(`: <regex error>"⟩] := by
  intro context
  have summary : (({} : Processor).load context.sources).map (fun loaded =>
      (mixed.map (({ registry := loaded.1 } : Processor).classify borders)).map fun classified =>
        (classified.classification.isMatched, classified.classification.warning?)) =
      .ok [(true, none), (false, some ⟨.matchComponents, "w",
        "Invalid pattern: pluck `title`: invalid regex `(`: <regex error>"⟩), (false, none)] := by
    decide +kernel
  obtain ⟨⟨registry, scents⟩, loaded, shown⟩ := Failure.map_eq_ok_iff.mp summary
  have valid : validate borders mixed = .ok () := by decide +kernel
  have passed : ({} : Processor).process (some borders) context = _ :=
    process_eq loaded rfl rfl valid
  have succeeded := congrArg PassEnd.result passed
  obtain ⟨registry', scents', listed, after, loaded', present, left, published, outlines, _, _,
    warnings, _⟩ := process_publishes succeeded
  obtain ⟨rfl, rfl⟩ := Prod.mk.inj (Except.ok.inj (loaded.symm.trans loaded'))
  cases Option.some.inj present
  have recorded : after.classification =
      (mixed.map (({ registry := registry } : Processor).classify borders)).map
        Classified.classification := by
    rw [← left, passed]
    rfl
  have matchings := congrArg (List.map Prod.fst) shown
  have failures := congrArg (List.filterMap Prod.snd) shown
  rw [List.map_map] at matchings
  rw [List.filterMap_map] at failures
  refine ⟨registry, scents, _, after, loaded, succeeded, left, published, outlines, ?_, ?_⟩
  · rw [recorded, List.map_map]
    exact matchings
  · rw [warnings, recorded, List.filterMap_map]
    exact congrArg (scents ++ ·) failures

end Processor

end ScreenSight
