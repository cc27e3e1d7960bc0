import ScreenSight.Proofs.Containment.Parents

/-!
# Parents generate containment

Where the containers of each component lie in one another, the parent of a component lies
in all the other ones.  So the chain of parents passes through each container, and the edges
that lead to children only have all nested pairs as their closure.
-/

namespace ScreenSight

namespace Box

/-- Boxes without negative coordinates never have more cells than areas tell apart. -/
theorem cellCount_lt_areaLimit {box : Box} (left : 0 ≤ box.left.toInt)
    (top : 0 ≤ box.top.toInt) : box.width * box.height < areaLimit := by
  have right := box.right.toInt_lt
  have bottom := box.bottom.toInt_lt
  have columns := box.left_toInt_le
  have rows := box.top_toInt_le
  have wide : box.width ≤ 0x80000000 := by
    rw [width]
    omega
  have high : box.height ≤ 0x80000000 := by
    rw [height]
    omega
  have nonnegative : 0 ≤ box.height := by
    rw [height]
    omega
  calc box.width * box.height ≤ 0x80000000 * 0x80000000 :=
        Int.mul_le_mul wide high nonnegative (by decide)
    _ < areaLimit := by decide

end Box

namespace Containment

/-- How far to the right of the least column a component begins. -/
def indentAt (components : List Component) (position : Nat) : Nat :=
  (boxAt? components position).elim 0 fun box => (box.left.toInt + 0x80000000).toNat

theorem indentAt_lt_of_nests {components : List Component} {outer inner : Nat}
    (nested : Nests components outer inner) :
    indentAt components outer < indentAt components inner := by
  obtain ⟨outerBox, innerBox, outerFound, innerFound, within⟩ := nested
  have columns := (Box.strictlyContains_iff.mp within).1.1
  have positive := margin_pos
  have lower := outerBox.left.le_toInt
  simp only [indentAt, outerFound, innerFound, Option.elim_some]
  omega

/-- Each component that is nested in another one begins further to the right, so nesting goes
outwards only so far. -/
theorem wellFounded_nests (components : List Component) : WellFounded (Nests components) :=
  Subrelation.wf indentAt_lt_of_nests (measure (indentAt components)).wf

/-- No box reaches into the negative. -/
def NonNegative (components : List Component) : Prop :=
  ∀ component ∈ components, ∀ box ∈ component.effectiveBox,
    0 ≤ box.left.toInt ∧ 0 ≤ box.top.toInt

instance (components : List Component) : Decidable (NonNegative components) :=
  inferInstanceAs (Decidable (∀ _ ∈ _, _))

/-- Of any two containers of the same component one lies in the other. -/
def Chained (components : List Component) : Prop :=
  ∀ inner first second, Nests components first inner → Nests components second inner →
    first = second ∨ Nests components first second ∨ Nests components second first

end Containment

namespace ContainmentAnalyzer

open Containment

section

variable {analyzer : ContainmentAnalyzer} {components : List Component}
variable (nonnegative : NonNegative components) (chained : Chained components)

include nonnegative

theorem not_exceedsAreas (position : Nat) : ¬ExceedsAreas components position := by
  rintro ⟨box, found, large⟩
  obtain ⟨component, present, boxed⟩ := Option.bind_eq_some_iff.mp found
  obtain ⟨left, top⟩ := nonnegative component (List.mem_of_getElem? present) box boxed
  have small := Box.cellCount_lt_areaLimit left top
  omega

/-- Nothing fits between a parent and its child. -/
theorem not_nests_between (direct : analyzer.directOnly = true) {parent between inner : Nat}
    (kept : (parent, inner) ∈ analyzer.keptOf components)
    (above : Nests components parent between) : ¬Nests components between inner := by
  intro below
  have isParent := (mem_keptOf_iff.mp kept).2 direct
  have notTighter : ¬isTighter components between parent = true := by
    have least := isParent.2 between below
    rw [isTighter_iff]
    omega
  have large := (above.exceedsAreas notTighter).2
  exact not_exceedsAreas nonnegative between large

include chained

/-- The parents lead from each component to all its containers, by induction outwards from the
component. -/
theorem transGen_keptOf_of_nests (direct : analyzer.directOnly = true) {outer inner : Nat}
    (nested : Nests components outer inner) :
    Relation.TransGen (fun parent child => (parent, child) ∈ analyzer.keptOf components)
      outer inner := by
  induction inner using (wellFounded_nests components).induction with
  | _ inner induction =>
    obtain ⟨parent, kept⟩ := exists_mem_keptOf direct nested
    have around := nests_of_mem_keptOf kept
    rcases chained inner outer parent nested around with same | outside | between
    · subst same
      exact .single kept
    · exact (induction parent around outside).tail kept
    · exact absurd nested (not_nests_between nonnegative direct kept between)

end

/-- If no box reaches into the negative and any two containers of the same component are
nested, then the edges from parents to children generate all edges of containment. -/
theorem transGen_direct_iff_full {model : Model}
    (distinct : (model.components.map Component.id).Nodup)
    (unrelated : model.relationships = [])
    (nonnegative : NonNegative model.components) (chained : Chained model.components)
    {direct full : ContainmentAnalyzer} (sparse : direct.directOnly = true)
    (complete : full.directOnly = false) (outer inner : String) :
    Relation.TransGen (direct.analyze model).Contains outer inner ↔
      (full.analyze model).Contains outer inner := by
  rw [contains_full_iff distinct unrelated complete]
  constructor
  · exact nestsById_of_path distinct unrelated
  · rintro ⟨outerPlace, innerPlace, nested, rfl, rfl⟩
    have chain := transGen_keptOf_of_nests nonnegative chained sparse nested
    refine chain.lift (idAt model.components) ?_
    intro parent child kept
    exact (contains_analyze_iff distinct unrelated).mpr ⟨parent, child, kept, rfl, rfl⟩

theorem transGen_direct_iff_full_nestedThrice :
    let direct : ContainmentAnalyzer := { directOnly := true }
    let full : ContainmentAnalyzer := {}
    (nestedThrice.components.map Component.id).Nodup ∧ nestedThrice.relationships = [] ∧
      NonNegative nestedThrice.components ∧ Chained nestedThrice.components ∧
      ¬(direct.analyze nestedThrice).Contains "outer" "inner" ∧
      (full.analyze nestedThrice).Contains "outer" "inner" ∧
      Relation.TransGen (direct.analyze nestedThrice).Contains "outer" "inner" := by
  intro direct full
  have distinct : (nestedThrice.components.map Component.id).Nodup := by decide
  have nonnegative : NonNegative nestedThrice.components := by decide
  have chained : Chained nestedThrice.components := by
    have nested : ∀ first < 3, ∀ second < 3, first = second ∨
        Nests nestedThrice.components first second ∨
          Nests nestedThrice.components second first := by decide
    intro inner first second firstNested secondNested
    exact nested first firstNested.lt.1 second secondNested.lt.1
  have apart : ¬(direct.analyze nestedThrice).Contains "outer" "inner" := by
    intro contains
    have middle : (direct.analyze nestedThrice).Contains "middle" "inner" :=
      (contains_analyze_iff distinct rfl).mpr ⟨1, 2, mem_keptOf_iff.mpr (by decide), rfl, rfl⟩
    have same := outer_unique distinct rfl rfl contains middle
    exact absurd same (by decide)
  have together : (full.analyze nestedThrice).Contains "outer" "inner" :=
    (contains_full_iff distinct rfl rfl).mpr ⟨0, 2, by decide, rfl, rfl⟩
  exact ⟨distinct, rfl, nonnegative, chained, apart, together,
    (transGen_direct_iff_full distinct rfl nonnegative chained rfl rfl _ _).mpr together⟩

end ContainmentAnalyzer

end ScreenSight
