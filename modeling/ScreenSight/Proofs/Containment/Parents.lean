import Mathlib.Data.List.Induction
import ScreenSight.Proofs.Containment.Forest

/-!
# Parents are minimal containers

The parent of a component is the tightest of its containers, by area and then by
position.  Boxes grow with every box around them, so nothing fits between a parent and
its child, except where areas are too large to be told apart.
-/

namespace ScreenSight

namespace Box

variable {outer inner : Box} {margin : Coordinate}

theorem cellCount_lt_of_strictlyContains (positive : 0 < margin.toInt)
    (nested : outer.strictlyContains inner margin = true) :
    inner.width * inner.height < outer.width * outer.height := by
  obtain ⟨columns, rows⟩ := strictlyContains_iff.mp nested
  have wide := inner.left_toInt_le
  have high := inner.top_toInt_le
  have wider : inner.width < outer.width := by
    rw [width, width]
    omega
  have higher : inner.height < outer.height := by
    rw [height, height]
    omega
  have celled : 0 < inner.height := by
    rw [height]
    omega
  have spread : 0 ≤ outer.width := by
    rw [width] at wider ⊢
    omega
  exact Int.mul_lt_mul wider (Int.le_of_lt higher) celled spread

/-- Of nested boxes the inner one has the smaller area, unless both areas are beyond
what is told apart. -/
theorem area_lt_or_of_strictlyContains (positive : 0 < margin.toInt)
    (nested : outer.strictlyContains inner margin = true) :
    inner.area < outer.area ∨
      areaLimit ≤ inner.width * inner.height ∧ inner.area = outer.area := by
  have fewer := cellCount_lt_of_strictlyContains positive nested
  rw [area, area]
  omega

end Box

namespace Containment

variable {components : List Component} {containers : List Nat}

/-! ## The tightest container -/

theorem isTighter_iff {position other : Nat} :
    isTighter components position other = true ↔
      areaAt components position < areaAt components other ∨
        areaAt components position = areaAt components other ∧ position < other := by
  simp [isTighter]

theorem isTighter_trans {first second third : Nat}
    (left : isTighter components first second = true)
    (right : isTighter components second third = true) :
    isTighter components first third = true := by
  rw [isTighter_iff] at left right ⊢
  omega

/-- A position is one of some containers, and none of them is tighter. -/
structure IsTightest (components : List Component) (containers : List Nat)
    (position : Nat) : Prop where
  listed : position ∈ containers
  least : ∀ other ∈ containers, ¬isTighter components other position = true

theorem IsTightest.unique {position other : Nat}
    (tightest : IsTightest components containers position)
    (otherTightest : IsTightest components containers other) : position = other := by
  have notAfter := tightest.least other otherTightest.listed
  have notBefore := otherTightest.least position tightest.listed
  rw [isTighter_iff] at notAfter notBefore
  omega

theorem tightest?_concat (rest : List Nat) (last : Nat) :
    tightest? components (rest ++ [last]) =
      match tightest? components rest with
      | none => some last
      | some current =>
          if isTighter components last current then some last else some current := by
  rw [tightest?, List.foldl_append, ← tightest?]
  cases tightest? components rest <;> rfl

theorem isTightest_singleton (position : Nat) : IsTightest components [position] position := by
  refine ⟨List.mem_singleton_self position, ?_⟩
  simp [isTighter_iff]

theorem IsTightest.concat_of_tighter {rest : List Nat} {current last : Nat}
    (best : IsTightest components rest current)
    (tighter : isTighter components last current = true) :
    IsTightest components (rest ++ [last]) last := by
  refine ⟨by simp, ?_⟩
  intro other member again
  rcases List.mem_append.mp member with before | same
  · exact best.least other before (isTighter_trans again tighter)
  · rw [List.mem_singleton.mp same, isTighter_iff] at again
    omega

theorem IsTightest.concat {rest : List Nat} {current last : Nat}
    (best : IsTightest components rest current)
    (notTighter : ¬isTighter components last current = true) :
    IsTightest components (rest ++ [last]) current := by
  refine ⟨List.mem_append_left _ best.listed, ?_⟩
  intro other member
  rcases List.mem_append.mp member with before | same
  · exact best.least other before
  · rwa [List.mem_singleton.mp same]

theorem isTightest_of_tightest? {position : Nat}
    (found : tightest? components containers = some position) :
    IsTightest components containers position := by
  induction containers using List.reverseRecOn generalizing position with
  | nil => cases found
  | append_singleton rest last induction =>
      rw [tightest?_concat] at found
      cases earlier : tightest? components rest with
      | none =>
          have nothing : rest = [] := by
            by_contra any
            obtain ⟨_, _, some⟩ := exists_tightest? components any
            rw [some] at earlier
            cases earlier
          rw [earlier] at found
          obtain rfl := Option.some.inj found
          subst nothing
          exact isTightest_singleton last
      | some current =>
          rw [earlier] at found
          simp only at found
          split at found
          · next tighter =>
              obtain rfl := Option.some.inj found
              exact (induction earlier).concat_of_tighter tighter
          · next notTighter =>
              obtain rfl := Option.some.inj found
              exact (induction earlier).concat notTighter

theorem tightest?_eq_some_iff {position : Nat} :
    tightest? components containers = some position ↔
      IsTightest components containers position := by
  constructor
  · exact isTightest_of_tightest?
  · intro tightest
    obtain ⟨other, _, found⟩ :=
      exists_tightest? components (List.ne_nil_of_mem tightest.listed)
    rw [found, (isTightest_of_tightest? found).unique tightest]

/-! ## Between a parent and its child -/

theorem areaAt_of_boxAt? {position : Nat} {box : Box}
    (found : boxAt? components position = some box) : areaAt components position = box.area := by
  rw [areaAt, found]
  rfl

/-- A container of a component that is the least of all its containers by area and position. -/
def IsParent (components : List Component) (parent inner : Nat) : Prop :=
  Nests components parent inner ∧
    ∀ other, Nests components other inner →
      areaAt components parent < areaAt components other ∨
        areaAt components parent = areaAt components other ∧ parent ≤ other

instance (components : List Component) (parent inner : Nat) :
    Decidable (IsParent components parent inner) :=
  decidable_of_iff
    (Nests components parent inner ∧
      ∀ other < components.length, Nests components other inner →
        areaAt components parent < areaAt components other ∨
          areaAt components parent = areaAt components other ∧ parent ≤ other)
    (and_congr_right fun _ =>
      ⟨fun least other nested => least other nested.lt.1 nested,
        fun least other _ nested => least other nested⟩)

/-- The component at a position has more cells than areas tell apart. -/
def ExceedsAreas (components : List Component) (position : Nat) : Prop :=
  ∃ box, boxAt? components position = some box ∧ Box.areaLimit ≤ box.width * box.height

/-- What lies in a component without being tighter is too large to be told apart from
it, and stands behind it. -/
theorem Nests.exceedsAreas {outer inner : Nat} (nested : Nests components outer inner)
    (notTighter : ¬isTighter components inner outer = true) :
    outer < inner ∧ ExceedsAreas components inner := by
  have differ : inner ≠ outer := by
    intro same
    subst same
    exact not_nests_self inner nested
  obtain ⟨outerBox, innerBox, outerFound, innerFound, within⟩ := nested
  rw [isTighter_iff, areaAt_of_boxAt? outerFound, areaAt_of_boxAt? innerFound] at notTighter
  rcases Box.area_lt_or_of_strictlyContains margin_pos within with smaller | ⟨large, same⟩
  · exact absurd (.inl smaller) notTighter
  · exact ⟨by omega, innerBox, innerFound, large⟩

end Containment

namespace ContainmentAnalyzer

open Containment

variable {analyzer : ContainmentAnalyzer} {model : Model}

theorem mem_containersOf_pairs_iff {outer inner : Nat} :
    outer ∈ containersOf (analyzer.pairs model) inner ↔ Nests model.components outer inner :=
  mem_containersOf.trans mem_pairs_iff

/-- The parent of a component is its tightest container. -/
theorem parents_eq_some_iff {parent inner : Nat} (inside : inner < model.components.length) :
    (parents model.components (analyzer.pairs model))[inner]?.join = some parent ↔
      Nests model.components parent inner ∧
        ∀ other, Nests model.components other inner →
          ¬isTighter model.components other parent = true := by
  have found : (parents model.components (analyzer.pairs model))[inner]?.join =
      tightest? model.components (containersOf (analyzer.pairs model) inner) :=
    parentsOf_eq inside
  rw [found, tightest?_eq_some_iff]
  constructor
  · intro tightest
    refine ⟨mem_containersOf_pairs_iff.mp tightest.listed, ?_⟩
    intro other nested
    exact tightest.least other (mem_containersOf_pairs_iff.mpr nested)
  · intro minimal
    obtain ⟨nested, least⟩ := minimal
    refine ⟨mem_containersOf_pairs_iff.mpr nested, ?_⟩
    intro other listed
    exact least other (mem_containersOf_pairs_iff.mp listed)

theorem parentsOf_eq_some_iff {components : List Component} {parent inner : Nat} :
    (analyzer.parentsOf components)[inner]?.join = some parent ↔
      IsParent components parent inner := by
  by_cases inside : inner < components.length
  · have found : (analyzer.parentsOf components)[inner]?.join = some parent ↔ _ :=
      @parents_eq_some_iff analyzer ⟨components, []⟩ parent inner inside
    simp only [found, IsParent, isTighter_iff]
    refine and_congr_right fun _ => forall₂_congr fun other _ => ?_
    omega
  · constructor
    · intro found
      simp [parentsOf, parents, inside] at found
    · intro isParent
      exact absurd isParent.1.lt.2 inside

theorem mem_keptOf_iff {components : List Component} {outer inner : Nat} :
    (outer, inner) ∈ analyzer.keptOf components ↔
      Nests components outer inner ∧
        (analyzer.directOnly = true → IsParent components outer inner) := by
  cases mode : analyzer.directOnly with
  | false => simp [mem_keptOf_of_full mode]
  | true => simp [mem_keptOf_of_direct mode, parentsOf_eq_some_iff]

theorem exists_parent (analyzer : ContainmentAnalyzer) {outer inner : Nat}
    (nested : Nests model.components outer inner) :
    ∃ parent, (parents model.components (analyzer.pairs model))[inner]?.join = some parent := by
  have container : outer ∈ containersOf (analyzer.pairs model) inner :=
    mem_containersOf_pairs_iff.mpr nested
  obtain ⟨parent, _, tightest⟩ :=
    exists_tightest? model.components (List.ne_nil_of_mem container)
  exact ⟨parent, (parentsOf_eq nested.lt.2).trans tightest⟩

theorem property?_parent_analyze {parent inner : Nat}
    (inside : inner < model.components.length)
    (found : (parents model.components (analyzer.pairs model))[inner]?.join = some parent) :
    ((analyzer.analyze model).components[inner]?.bind fun component =>
        component.property? parentProperty) =
      some (.text (idAt model.components parent)) := by
  change ((annotate model.components _ _)[inner]?.bind _) = _
  rw [annotate, List.getElem?_mapIdx, List.getElem?_eq_getElem inside, found]
  simp [writeParent, Component.property?, Component.setProperty, SortedMap.get?_insert]

/-- A component that lies in another one is given a parent that it lies in.  What lies
between the two stands behind the parent and has, as the parent has, more cells than
areas tell apart. -/
theorem analyze_parent (analyzer : ContainmentAnalyzer) {model : Model} {outer inner : Nat}
    (nested : Nests model.components outer inner) :
    ∃ parent,
      (parents model.components (analyzer.pairs model))[inner]?.join = some parent ∧
      ((analyzer.analyze model).components[inner]?.bind fun component =>
          component.property? parentProperty) =
        some (.text (idAt model.components parent)) ∧
      Nests model.components parent inner ∧
      ∀ between, Nests model.components parent between →
        Nests model.components between inner →
          parent < between ∧ ExceedsAreas model.components between := by
  obtain ⟨parent, found⟩ := exists_parent analyzer nested
  obtain ⟨around, least⟩ := (parents_eq_some_iff nested.lt.2).mp found
  refine ⟨parent, found, property?_parent_analyze nested.lt.2 found, around, ?_⟩
  intro between above below
  exact above.exceedsAreas (least between below)

theorem analyze_parent_nestedThrice :
    let analyzer : ContainmentAnalyzer := {}
    Nests nestedThrice.components 0 2 ∧
      ∃ parent,
        (parents nestedThrice.components (analyzer.pairs nestedThrice))[2]?.join = some parent ∧
        Nests nestedThrice.components parent 2 ∧
        ∀ between, Nests nestedThrice.components parent between →
          ¬Nests nestedThrice.components between 2 := by
  intro analyzer
  have nested : Nests nestedThrice.components 0 2 := ⟨_, _, rfl, rfl, by decide⟩
  obtain ⟨parent, found, _, around, largeBetween⟩ := analyze_parent analyzer nested
  refine ⟨nested, parent, found, around, ?_⟩
  intro between above below
  obtain ⟨_, box, present, large⟩ := largeBetween between above below
  have listed : between < 3 := below.lt.1
  match between with
  | 0 => cases present; exact absurd large (by decide)
  | 1 => cases present; exact absurd large (by decide)
  | 2 => cases present; exact absurd large (by decide)

/-- The whole plane, the same without its edge, and a cell in the middle. -/
def nestedInPlane : Model :=
  { components := [
      { id := "plane",
        box := some (Box.ofCorners (-2147483648) (-2147483648) 2147483647 2147483647) },
      { id := "middle",
        box := some (Box.ofCorners (-2147483647) (-2147483647) 2147483646 2147483646) },
      { id := "inner", box := some (Box.ofCorners 0 0 0 0) }] }

/-- A parent need not be a minimal container. -/
theorem parent_not_minimal :
    ¬∀ (analyzer : ContainmentAnalyzer) (model : Model) (parent inner between : Nat),
      (parents model.components (analyzer.pairs model))[inner]?.join = some parent →
        Nests model.components parent between → ¬Nests model.components between inner := by
  intro minimal
  have outer : Nests nestedInPlane.components 0 1 := ⟨_, _, rfl, rfl, by decide⟩
  have inner : Nests nestedInPlane.components 1 2 := ⟨_, _, rfl, rfl, by decide⟩
  refine minimal {} nestedInPlane 0 2 1 ?_ outer inner
  refine (parents_eq_some_iff (by decide)).mpr ⟨outer.trans inner, ?_⟩
  intro other nested
  have listed : other < 3 := nested.lt.1
  match other with
  | 0 => decide
  | 1 => decide
  | 2 => exact absurd nested (not_nests_self 2)

end ContainmentAnalyzer

end ScreenSight
