import Mathlib.Data.List.Nodup
import ScreenSight.Proofs.Ordered.Sorting
import ScreenSight.Recognition.Matching

/-!
# The order of relationships

Link rules are tried pattern by pattern, rule by rule and pair by pair.  Each try has four
places: that of the pattern, that of the rule in the pattern, and those of the two
components.  The relationships are the edges of all tries that succeed, by the
lexicographic order of the places, without those that an earlier try has found too.
-/

namespace ScreenSight

open Hunt

/-! ## Nested loops -/

section

variable {α β : Type} {items : List (α × Nat)} {next : α × Nat → List (List Nat × β)}

/-- What a loop over numbered items finds, each thing with the number of the item in front
of the numbers that it already has. -/
def enumerate (items : List (α × Nat)) (next : α × Nat → List (List Nat × β)) :
    List (List Nat × β) :=
  items.flatMap fun item => (next item).map fun found => (item.2 :: found.1, found.2)

theorem mem_enumerate_iff {number : Nat} {numbers : List Nat} {found : β} :
    (number :: numbers, found) ∈ enumerate items next ↔
      ∃ item, (item, number) ∈ items ∧ (numbers, found) ∈ next (item, number) := by
  simp only [enumerate, List.mem_flatMap, List.mem_map, Prod.exists, Prod.mk.injEq,
    List.cons.injEq]
  constructor
  · rintro ⟨item, _, listed, _, _, inner, ⟨rfl, rfl⟩, rfl⟩
    exact ⟨item, listed, inner⟩
  · rintro ⟨item, listed, inner⟩
    exact ⟨item, number, listed, numbers, found, inner, ⟨rfl, rfl⟩, rfl⟩

theorem ne_nil_of_mem_enumerate {numbers : List Nat} {found : β}
    (member : (numbers, found) ∈ enumerate items next) :
    ∃ number rest, numbers = number :: rest := by
  obtain ⟨item, _, inner⟩ := List.mem_flatMap.mp member
  obtain ⟨_, _, same⟩ := List.mem_map.mp inner
  exact ⟨_, _, (congrArg Prod.fst same).symm⟩

/-- The numbers increase lexicographically if they do in the inner loops. -/
theorem pairwise_enumerate
    (increasing : items.Pairwise fun earlier later => earlier.2 < later.2)
    (inner : ∀ item ∈ items, (next item).Pairwise fun earlier later => earlier.1 < later.1) :
    (enumerate items next).Pairwise fun earlier later => earlier.1 < later.1 := by
  refine List.pairwise_flatMap.mpr ⟨?_, ?_⟩
  · intro item listed
    refine List.pairwise_map.mpr ((inner item listed).imp ?_)
    intro earlier later before
    exact List.cons_lt_cons_self.mpr before
  · refine increasing.imp ?_
    intro earlier later before first firstFound second secondFound
    obtain ⟨_, _, rfl⟩ := List.mem_map.mp firstFound
    obtain ⟨_, _, rfl⟩ := List.mem_map.mp secondFound
    exact List.Lex.rel before

theorem map_snd_enumerate :
    (enumerate items next).map Prod.snd = items.flatMap fun item => (next item).map Prod.snd := by
  rw [enumerate, List.map_flatMap]
  simp only [List.map_map]
  rfl

theorem flatMap_zipIdx (values : List α) (next : α → List β) :
    (values.zipIdx.flatMap fun item => next item.1) = values.flatMap next := by
  rw [← List.flatMap_map, List.zipIdx_map_fst]

end

namespace Matcher

/-! ## First occurrences -/

theorem dropRepeats_eq (seen items : List Relationship) :
    dropRepeats seen items = (items.filter fun item => item ∉ seen).eraseDups := by
  induction items generalizing seen with
  | nil => rfl
  | cons head tail induction =>
      rw [dropRepeats]
      by_cases repeated : head ∈ seen
      · rw [if_pos (List.contains_iff_mem.mpr repeated), induction,
          List.filter_cons_of_neg (by simpa using repeated)]
      · rw [if_neg (mt List.contains_iff_mem.mp repeated), induction,
          List.filter_cons_of_pos (by simpa using repeated), List.eraseDups_cons,
          List.filter_filter]
        congr 2
        apply List.filter_congr
        intro item _
        simp [not_or, beq_eq_decide]

/-! ## Places -/

/-- The edge of a link rule between two components with boxes, each with its place. -/
def edgeAt? (link : LinkRule) (source target : (Component × Box) × Nat) :
    Option Relationship :=
  if source.2 ≠ target.2 ∧
      link.relates source.1.1.kind source.1.2 target.1.1.kind target.1.2 then
    Relationship.between? source.1.1.id target.1.1.id link.kind
  else none

/-- The components that have a box, with it and their place. -/
def placed (components : List Component) : List ((Component × Box) × Nat) :=
  components.zipIdx.filterMap fun (component, place) =>
    component.effectiveBox.map fun box => ((component, box), place)

/-- The edges that a link rule finds, with the places of their components. -/
def joinedBy (components : List Component) (link : LinkRule) :
    List (List Nat × Relationship) :=
  enumerate (placed components) fun source =>
    enumerate (placed components) fun target =>
      (edgeAt? link source target).toList.map fun edge => ([], edge)

/-- The edges of all tries with their places. -/
def joined (registry : Registry) (components : List Component) :
    List (List Nat × Relationship) :=
  enumerate registry.relationship.values.zipIdx fun pattern =>
    enumerate pattern.1.links.zipIdx fun link => joinedBy components link.1

/-- The try at the places of a pattern, a link rule of it and two components finds an edge. -/
inductive Joins (registry : Registry) (components : List Component) :
    List Nat → Relationship → Prop where
  | mk {patternPlace linkPlace sourcePlace targetPlace : Nat}
      {pattern : RelationshipPattern} {link : LinkRule} {source target : Component}
      {sourceBox targetBox : Box}
      (declared : registry.relationship.values[patternPlace]? = some pattern)
      (listed : pattern.links[linkPlace]? = some link)
      (sourceHere : components[sourcePlace]? = some source)
      (sourceBoxed : source.effectiveBox = some sourceBox)
      (targetHere : components[targetPlace]? = some target)
      (targetBoxed : target.effectiveBox = some targetBox)
      (apart : sourcePlace ≠ targetPlace)
      (related : link.relates source.kind sourceBox target.kind targetBox = true)
      (differ : source.id ≠ target.id) :
      Joins registry components [patternPlace, linkPlace, sourcePlace, targetPlace]
        ⟨source.id, target.id, link.kind⟩

theorem linked_eq (link : LinkRule) (entries : List (Component × Box)) :
    linked link entries =
      entries.zipIdx.flatMap fun source => entries.zipIdx.filterMap (edgeAt? link source) := rfl

theorem mem_placed_iff {components : List Component} {component : Component} {box : Box}
    {place : Nat} :
    ((component, box), place) ∈ placed components ↔
      components[place]? = some component ∧ component.effectiveBox = some box := by
  simp only [placed, List.mem_filterMap, Prod.exists, Option.map_eq_some_iff, Prod.mk.injEq]
  constructor
  · rintro ⟨_, _, member, _, boxed, ⟨rfl, rfl⟩, rfl⟩
    exact ⟨List.mk_mem_zipIdx_iff_getElem?.mp member, boxed⟩
  · rintro ⟨here, boxed⟩
    exact ⟨component, place, List.mk_mem_zipIdx_iff_getElem?.mpr here, box, boxed,
      ⟨rfl, rfl⟩, rfl⟩

theorem pairwise_placed (components : List Component) :
    (placed components).Pairwise fun earlier later => earlier.2 < later.2 := by
  refine List.Pairwise.filterMap _ ?_ (pairwise_zipIdx components)
  rintro ⟨earlier, earlierPlace⟩ ⟨later, laterPlace⟩ before first firstMade second secondMade
  obtain ⟨_, _, rfl⟩ := Option.map_eq_some_iff.mp firstMade
  obtain ⟨_, _, rfl⟩ := Option.map_eq_some_iff.mp secondMade
  exact before

theorem map_fst_placed (components : List Component) :
    (placed components).map Prod.fst = boxed components := by
  have unplaced : ((fun component : Component =>
      component.effectiveBox.map fun box => (component, box)) ∘ Prod.fst) =
        fun item : Component × Nat =>
          (item.1.effectiveBox.map fun box => ((item.1, box), item.2)).map Prod.fst := by
    funext item
    rw [Option.map_map]
    rfl
  rw [placed, List.map_filterMap, boxed, ← List.zipIdx_map_fst 0 components,
    List.filterMap_map, unplaced, List.zipIdx_map_fst]

theorem edgeAt?_eq_some_iff {link : LinkRule} {source target : (Component × Box) × Nat}
    {edge : Relationship} :
    edgeAt? link source target = some edge ↔
      source.2 ≠ target.2 ∧
        link.relates source.1.1.kind source.1.2 target.1.1.kind target.1.2 = true ∧
        source.1.1.id ≠ target.1.1.id ∧ ⟨source.1.1.id, target.1.1.id, link.kind⟩ = edge := by
  rw [edgeAt?, Option.ite_none_right_eq_some, Relationship.between?,
    Option.ite_none_left_eq_some, and_assoc, Option.some.injEq]

/-- Places among the components tell the components with boxes apart as well as places
among the latter do. -/
theorem linked_map_fst (link : LinkRule) {entries : List ((Component × Box) × Nat)}
    (distinct : (entries.map Prod.snd).Nodup) :
    linked link (entries.map Prod.fst) =
      entries.flatMap fun source => entries.filterMap (edgeAt? link source) := by
  -- both sides run over the entries with their places among one another
  have whole : entries = entries.zipIdx.map Prod.fst := (List.zipIdx_map_fst 0 entries).symm
  have same {source target : ((Component × Box) × Nat) × Nat}
      (sourceListed : source ∈ entries.zipIdx) (targetListed : target ∈ entries.zipIdx) :
      source.2 = target.2 ↔ source.1.2 = target.1.2 := by
    have sourceHere := List.mk_mem_zipIdx_iff_getElem?.mp sourceListed
    have targetHere := List.mk_mem_zipIdx_iff_getElem?.mp targetListed
    constructor
    · intro equal
      rw [equal, targetHere] at sourceHere
      rw [Option.some.inj sourceHere]
    · intro equal
      have inside := (List.getElem?_eq_some_iff.mp sourceHere).1
      apply (List.getElem?_inj (by simpa using inside) distinct).mp
      rw [List.getElem?_map, List.getElem?_map, sourceHere, targetHere, Option.map_some,
        Option.map_some, equal]
  rw [linked_eq, List.zipIdx_map, List.flatMap_map]
  conv_rhs => rw [whole, List.flatMap_map]
  apply List.flatMap_congr
  intro source sourceListed
  rw [List.filterMap_map, List.filterMap_map]
  apply List.filterMap_congr
  intro target targetListed
  have apart := not_congr (same sourceListed targetListed)
  simp only [Function.comp_apply, Prod.map, id, edgeAt?, ne_eq, apart]

theorem map_snd_joinedBy (components : List Component) (link : LinkRule) :
    (joinedBy components link).map Prod.snd = linked link (boxed components) := by
  have distinct : ((placed components).map Prod.snd).Nodup :=
    List.pairwise_map.mpr ((pairwise_placed components).imp fun before => Nat.ne_of_lt before)
  rw [← map_fst_placed, linked_map_fst link distinct, joinedBy, map_snd_enumerate]
  apply List.flatMap_congr
  intro source _
  rw [map_snd_enumerate, List.filterMap_eq_flatMap_toList]
  apply List.flatMap_congr
  intro target _
  rw [List.map_map]
  exact List.map_id _

/-- The edges of all tries are those of the link rules in their order. -/
theorem map_snd_joined (registry : Registry) (components : List Component) :
    (joined registry components).map Prod.snd =
      (registry.relationship.values.flatMap RelationshipPattern.links).flatMap fun link =>
        linked link (boxed components) := by
  have rules (pattern : RelationshipPattern) :
      (enumerate pattern.links.zipIdx fun link => joinedBy components link.1).map Prod.snd =
        pattern.links.flatMap fun link => linked link (boxed components) := by
    simp only [map_snd_enumerate, map_snd_joinedBy]
    exact flatMap_zipIdx pattern.links fun link => linked link (boxed components)
  simp only [joined, map_snd_enumerate, rules, List.flatMap_assoc]
  exact flatMap_zipIdx registry.relationship.values fun pattern =>
    pattern.links.flatMap fun link => linked link (boxed components)

theorem pairwise_joined (registry : Registry) (components : List Component) :
    (joined registry components).Pairwise fun earlier later => earlier.1 < later.1 := by
  apply pairwise_enumerate (pairwise_zipIdx _)
  intro pattern _
  apply pairwise_enumerate (pairwise_zipIdx _)
  intro link _
  apply pairwise_enumerate (pairwise_placed components)
  intro source _
  apply pairwise_enumerate (pairwise_placed components)
  intro target _
  -- there is at most one edge at four places
  cases edgeAt? link.1 source target with
  | none => exact List.Pairwise.nil
  | some edge => exact List.pairwise_singleton _ _

theorem mem_joined_iff {registry : Registry} {components : List Component}
    {places : List Nat} {edge : Relationship} :
    (places, edge) ∈ joined registry components ↔ Joins registry components places edge := by
  constructor
  · intro member
    obtain ⟨patternPlace, rest, rfl⟩ := ne_nil_of_mem_enumerate member
    obtain ⟨pattern, declared, member⟩ := mem_enumerate_iff.mp member
    obtain ⟨linkPlace, rest, rfl⟩ := ne_nil_of_mem_enumerate member
    obtain ⟨link, listed, member⟩ := mem_enumerate_iff.mp member
    obtain ⟨sourcePlace, rest, rfl⟩ := ne_nil_of_mem_enumerate member
    obtain ⟨⟨source, sourceBox⟩, sourcePlaced, member⟩ := mem_enumerate_iff.mp member
    obtain ⟨targetPlace, rest, rfl⟩ := ne_nil_of_mem_enumerate member
    obtain ⟨⟨target, targetBox⟩, targetPlaced, member⟩ := mem_enumerate_iff.mp member
    obtain ⟨found, made, same⟩ := List.mem_map.mp member
    obtain ⟨rfl, rfl⟩ := Prod.mk.inj same
    obtain ⟨apart, related, differ, rfl⟩ := edgeAt?_eq_some_iff.mp (Option.mem_toList.mp made)
    obtain ⟨sourceHere, sourceBoxed⟩ := mem_placed_iff.mp sourcePlaced
    obtain ⟨targetHere, targetBoxed⟩ := mem_placed_iff.mp targetPlaced
    exact .mk (List.mk_mem_zipIdx_iff_getElem?.mp declared)
      (List.mk_mem_zipIdx_iff_getElem?.mp listed) sourceHere sourceBoxed targetHere targetBoxed
      apart related differ
  · intro joins
    cases joins with
    | @mk _ _ sourcePlace targetPlace _ link source target sourceBox targetBox declared listed
        sourceHere sourceBoxed targetHere targetBoxed apart related differ =>
        have found : edgeAt? link ((source, sourceBox), sourcePlace)
            ((target, targetBox), targetPlace) = some ⟨source.id, target.id, link.kind⟩ :=
          edgeAt?_eq_some_iff.mpr ⟨apart, related, differ, rfl⟩
        refine mem_enumerate_iff.mpr
          ⟨_, List.mk_mem_zipIdx_iff_getElem?.mpr declared, mem_enumerate_iff.mpr
            ⟨_, List.mk_mem_zipIdx_iff_getElem?.mpr listed, mem_enumerate_iff.mpr
              ⟨_, mem_placed_iff.mpr ⟨sourceHere, sourceBoxed⟩, mem_enumerate_iff.mpr
                ⟨_, mem_placed_iff.mpr ⟨targetHere, targetBoxed⟩, ?_⟩⟩⟩⟩
        exact List.mem_map.mpr ⟨_, Option.mem_toList.mpr found, rfl⟩

/-- The relationships are the edges of all tries that succeed, in the lexicographic order of
the places, each at its first occurrence only. -/
theorem relationships_eq_eraseDups (registry : Registry) (components : List Component) :
    ∃ tries : List (List Nat × Relationship),
      (tries.Pairwise fun earlier later => earlier.1 < later.1) ∧
      (∀ places edge, (places, edge) ∈ tries ↔ Joins registry components places edge) ∧
      relationships registry components = (tries.map Prod.snd).eraseDups := by
  refine ⟨joined registry components, pairwise_joined registry components,
    fun _ _ => mem_joined_iff, ?_⟩
  have fresh (items : List Relationship) :
      items.filter (fun item => item ∉ ([] : List Relationship)) = items := by
    simp
  rw [relationships, dropRepeats_eq, fresh, map_snd_joined]

end Matcher

end ScreenSight
