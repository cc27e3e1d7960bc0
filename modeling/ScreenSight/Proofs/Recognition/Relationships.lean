import ScreenSight.Proofs.Containment.Forest
import ScreenSight.Proofs.Recognition.Report

/-!
# The relationships of a pass

Link rules and the analysis of containment write into one list of relationships.
The link rules drop repetitions among their own, and the analysis adds what is not
there yet.  An edge of containment leads inwards whoever has written it, as long as
the link rules for containment ask for nested boxes.
-/

namespace ScreenSight

open Hunt

/-! ## Link rules -/

namespace Matcher

theorem nodup_dropRepeats (seen items : List Relationship) :
    (dropRepeats seen items).Nodup ∧
      ∀ item ∈ dropRepeats seen items, item ∈ items ∧ item ∉ seen := by
  induction items generalizing seen with
  | nil => exact ⟨List.nodup_nil, fun _ member => absurd member List.not_mem_nil⟩
  | cons head tail induction =>
      rw [dropRepeats]
      by_cases repeated : head ∈ seen
      · rw [if_pos (List.contains_iff_mem.mpr repeated)]
        obtain ⟨distinct, fresh⟩ := induction seen
        refine ⟨distinct, ?_⟩
        intro item member
        obtain ⟨listed, unseen⟩ := fresh item member
        exact ⟨List.mem_cons_of_mem head listed, unseen⟩
      · rw [if_neg (mt List.contains_iff_mem.mp repeated)]
        obtain ⟨distinct, fresh⟩ := induction (head :: seen)
        constructor
        · apply List.nodup_cons.mpr
          refine ⟨?_, distinct⟩
          intro again
          exact (fresh head again).2 List.mem_cons_self
        · intro item member
          cases List.mem_cons.mp member with
          | inl same =>
              subst same
              exact ⟨List.mem_cons_self, repeated⟩
          | inr later =>
              obtain ⟨listed, unseen⟩ := fresh item later
              exact ⟨List.mem_cons_of_mem head listed,
                fun known => unseen (List.mem_cons_of_mem head known)⟩

theorem of_mem_boxed {components : List Component} {entry : Component × Box}
    (member : entry ∈ boxed components) :
    entry.1 ∈ components ∧ entry.1.effectiveBox = some entry.2 := by
  obtain ⟨component, listed, made⟩ := List.mem_filterMap.mp member
  obtain ⟨box, found, same⟩ := Option.map_eq_some_iff.mp made
  subst same
  exact ⟨listed, found⟩

/-- A link rule relates different components that satisfy it. -/
theorem exists_of_mem_linked {link : LinkRule} {entries : List (Component × Box)}
    {edge : Relationship} (member : edge ∈ linked link entries) :
    ∃ source ∈ entries, ∃ target ∈ entries,
      link.relates source.1.kind source.2 target.1.kind target.2 = true ∧
      source.1.id ≠ target.1.id ∧ edge = ⟨source.1.id, target.1.id, link.kind⟩ := by
  obtain ⟨⟨source, sourcePosition⟩, sourceListed, member⟩ := List.mem_flatMap.mp member
  obtain ⟨⟨target, targetPosition⟩, targetListed, made⟩ := List.mem_filterMap.mp member
  obtain ⟨⟨_, related⟩, made⟩ := Option.ite_none_right_eq_some.mp made
  obtain ⟨differ, made⟩ := Option.ite_none_left_eq_some.mp made
  exact ⟨source, List.fst_mem_of_mem_zipIdx sourceListed, target,
    List.fst_mem_of_mem_zipIdx targetListed, related, differ, (Option.some.inj made).symm⟩

theorem exists_of_mem_relationships {registry : Registry} {components : List Component}
    {edge : Relationship} (member : edge ∈ relationships registry components) :
    ∃ link ∈ registry.relationship.values.flatMap RelationshipPattern.links,
      edge ∈ linked link (boxed components) := by
  have listed := ((nodup_dropRepeats [] _).2 edge member).1
  exact List.mem_flatMap.mp listed

end Matcher

/-- Link rules for containment ask for nested boxes. -/
def Hunt.Registry.LinksInwards (registry : Registry) : Prop :=
  ∀ link ∈ registry.relationship.values.flatMap RelationshipPattern.links,
    link.kind = Relationship.containsKind → link.geometry = .inside

/-! ## Both producers -/

namespace Containment

theorem nestsById_of_boxes {components : List Component} {outer inner : Component}
    {outerBox innerBox : Box} (outerListed : outer ∈ components)
    (innerListed : inner ∈ components) (outerFound : outer.effectiveBox = some outerBox)
    (innerFound : inner.effectiveBox = some innerBox)
    (nested : outerBox.strictlyContains innerBox margin = true) :
    NestsById components outer.id inner.id := by
  obtain ⟨outerPlace, outerHere⟩ := List.mem_iff_getElem?.mp outerListed
  obtain ⟨innerPlace, innerHere⟩ := List.mem_iff_getElem?.mp innerListed
  refine ⟨outerPlace, innerPlace, ⟨outerBox, innerBox, ?_, ?_, nested⟩, ?_, ?_⟩
  · rw [boxAt?, outerHere]
    exact outerFound
  · rw [boxAt?, innerHere]
    exact innerFound
  · rw [idAt, outerHere]
    rfl
  · rw [idAt, innerHere]
    rfl

end Containment

namespace Processor

open Containment

variable {processor : Processor} {components : List Component}

theorem nests_of_mem_keptOf {outer inner : Nat}
    (kept : (outer, inner) ∈ processor.keptOf components) : Nests components outer inner := by
  rw [keptOf] at kept
  cases analysis : processor.containment with
  | none =>
      rw [analysis] at kept
      cases kept
  | some analyzer =>
      rw [analysis] at kept
      exact ContainmentAnalyzer.nests_of_mem_keptOf kept

/-- A relationship comes from a link rule or from a pair of nested components. -/
theorem mem_relate_iff {edge : Relationship} :
    edge ∈ (processor.relate components).relationships ↔
      edge ∈ Matcher.relationships processor.registry components ∨
        edge ∈ edgesOf (idAt components) (processor.keptOf components) ∧
          edge.source ≠ edge.target := by
  rw [relate_eq]
  exact mem_foldl_addEdge

theorem nodup_relate (processor : Processor) (components : List Component) :
    (processor.relate components).relationships.Nodup := by
  rw [relate_eq]
  apply nodup_foldl_addEdge
  exact (Matcher.nodup_dropRepeats [] _).1

theorem source_ne_target_of_mem_relate {edge : Relationship}
    (member : edge ∈ (processor.relate components).relationships) :
    edge.source ≠ edge.target := by
  cases mem_relate_iff.mp member with
  | inl found =>
      obtain ⟨_, _, linked⟩ := Matcher.exists_of_mem_relationships found
      obtain ⟨_, _, _, _, _, differ, rfl⟩ := Matcher.exists_of_mem_linked linked
      exact differ
  | inr added => exact added.2

/-- Edges of containment lead inwards. -/
theorem nestsById_of_mem_relate (nested : processor.registry.LinksInwards)
    {outer inner : String}
    (member : ⟨outer, inner, Relationship.containsKind⟩ ∈
      (processor.relate components).relationships) :
    NestsById components outer inner := by
  cases mem_relate_iff.mp member with
  | inl found =>
      obtain ⟨link, declared, linked⟩ := Matcher.exists_of_mem_relationships found
      obtain ⟨source, sourceBoxed, target, targetBoxed, related, _, same⟩ :=
        Matcher.exists_of_mem_linked linked
      obtain ⟨rfl, rfl, kind⟩ := Relationship.mk.inj same
      obtain ⟨sourceListed, sourceBox⟩ := Matcher.of_mem_boxed sourceBoxed
      obtain ⟨targetListed, targetBox⟩ := Matcher.of_mem_boxed targetBoxed
      have inside := nested link declared kind.symm
      rw [LinkRule.relates, inside, Bool.and_eq_true] at related
      exact nestsById_of_boxes sourceListed targetListed sourceBox targetBox related.2
  | inr added =>
      obtain ⟨outerPlace, innerPlace, kept, _, same⟩ := mem_edgesOf.mp added.1
      obtain ⟨rfl, rfl, _⟩ := Relationship.mk.inj same
      exact ⟨outerPlace, innerPlace, nests_of_mem_keptOf kept, rfl, rfl⟩

/-! ## The whole pass -/

/-- What a pass publishes has no repetition and no loop, and its edges of containment
never lead back to a component, if the link rules for containment that it has loaded
ask for nested boxes. -/
theorem process_acyclic {given : Option Grid} {context : Context} {registry : Registry}
    {scents : List Scent} (loaded : processor.load context.sources = .ok (registry, scents))
    (inwards : registry.LinksInwards)
    (succeeded : (processor.process given context).result = .ok components) :
    (processor.process given context).context.relationships.Nodup ∧
      (∀ edge ∈ (processor.process given context).context.relationships,
        edge.source ≠ edge.target) ∧
      ∀ id, ¬Relation.TransGen
        (Model.mk components (processor.process given context).context.relationships).Contains
        id id := by
  obtain ⟨registry', scents', grid, listed, loaded', found, present, valid⟩ :=
    of_process_ok succeeded
  obtain ⟨rfl, rfl⟩ := Prod.mk.inj (Except.ok.inj (loaded.symm.trans loaded'))
  rw [process_eq loaded found present valid]
  refine ⟨nodup_relate _ _, fun edge => source_ne_target_of_mem_relate, ?_⟩
  intro id looped
  have ids := Component.map_id_of_map_outline
    (outline_classified { processor with registry := registry } grid listed)
  have distinct : ((classified { processor with registry := registry } grid listed).map
      Component.id).Nodup := by
    rw [ids]
    exact (validate_eq_ok_iff.mp valid).1
  apply not_nestsById_self distinct id
  apply nestsById_of_transGen distinct _ looped
  exact nestsById_of_mem_relate inwards

/-- A rule for containment, and one that relates everything. -/
def linking : String :=
  "<hunt nest:[INIT GATHER=\x7bparam link:contains=(val *,*)\x7d" ++
    "\x7bparam link:near=(val *,*,any)\x7d]><EXEC>"

/-- A component in another one. -/
def encased : List Component :=
  [{ id := "inner", box := some (Box.ofCorners 1 1 2 2) },
    { id := "outer", box := some (Box.ofCorners 0 0 3 3) }]

/-- Two frames, one in the other. -/
def frames : Grid :=
  Grid.ofText "----\n|xx|\n|xx|\n----" 1

theorem process_acyclic_encased :
    let context : Context := { components := some encased, sources := [linking] }
    ∃ registry scents components edges,
      ({} : Processor).load context.sources = .ok (registry, scents) ∧
      registry.LinksInwards ∧
      (({} : Processor).process (some frames) context).result = .ok components ∧
      (({} : Processor).process (some frames) context).context.relationships = edges ∧
      ⟨"outer", "inner", Relationship.containsKind⟩ ∈ edges ∧
      ⟨"inner", "outer", "near"⟩ ∈ edges ∧ ⟨"outer", "inner", "near"⟩ ∈ edges ∧
      edges.Nodup ∧ (∀ edge ∈ edges, edge.source ≠ edge.target) ∧
      ¬Relation.TransGen (Model.mk components edges).Contains "inner" "inner" := by
  intro context
  have summary : (({} : Processor).load context.sources).map (fun loaded =>
      (loaded.1.relationship.values.flatMap RelationshipPattern.links,
        Matcher.relationships loaded.1
          (classified { registry := loaded.1 } frames encased))) =
      .ok ([⟨"contains", .any, .any, .inside⟩, ⟨"near", .any, .any, .any⟩],
        [⟨"outer", "inner", "contains"⟩, ⟨"inner", "outer", "near"⟩,
          ⟨"outer", "inner", "near"⟩]) := by
    decide +kernel
  obtain ⟨⟨registry, scents⟩, loaded, shown⟩ := Failure.map_eq_ok_iff.mp summary
  obtain ⟨links, found⟩ := Prod.mk.inj shown
  have inwards : registry.LinksInwards := by
    rw [Registry.LinksInwards, links]
    decide
  have valid : validate frames encased = .ok () := by decide +kernel
  have passed : ({} : Processor).process (some frames) context = _ :=
    process_eq loaded rfl rfl valid
  have succeeded := congrArg PassEnd.result passed
  obtain ⟨distinct, noLoop, acyclic⟩ := process_acyclic loaded inwards succeeded
  have published {edge : Relationship}
      (member : edge ∈ Matcher.relationships registry
        (classified { registry := registry } frames encased)) :
      edge ∈ (({} : Processor).process (some frames) context).context.relationships := by
    rw [passed]
    exact mem_relate_iff.mpr (.inl member)
  simp only [found] at published
  exact ⟨registry, scents, _, _, loaded, inwards, succeeded, rfl, published (by decide),
    published (by decide), published (by decide), distinct, noLoop, acyclic "inner"⟩

end Processor

end ScreenSight
