import ScreenSight.Hunt.Rule.Tag
import ScreenSight.Proofs.Failure
import ScreenSight.Proofs.Ordered.Set

/-!
# What the score of a border depends on

A symbol is graded by the set of the literals, whatever their order, and a longer list of
literals can only raise its grade.  A border is scored by its visible symbols alone, and it
is scored just if there are any and each of them occurs in a literal.
-/

namespace ScreenSight.Hunt

/-! ## Grades of symbols -/

section

variable {literals others : List String} {symbol : Char}

theorem grade?_eq_whole_iff :
    grade? literals symbol = some .whole ↔ ∃ literal ∈ literals, literal.toList = [symbol] := by
  unfold grade?
  split
  · next spelled => simpa using spelled
  · next unspelled =>
      have absent : ¬∃ literal ∈ literals, literal.toList = [symbol] := by simpa using unspelled
      simp only [absent, iff_false]
      split <;> simp

theorem grade?_eq_part_iff :
    grade? literals symbol = some .part ↔
      (∃ literal ∈ literals, symbol ∈ literal.toList) ∧
        ¬∃ literal ∈ literals, literal.toList = [symbol] := by
  unfold grade?
  split
  · next spelled =>
      have alone : ∃ literal ∈ literals, literal.toList = [symbol] := by simpa using spelled
      exact iff_of_false nofun fun part => part.2 alone
  · next unspelled =>
      have absent : ¬∃ literal ∈ literals, literal.toList = [symbol] := by simpa using unspelled
      simp [absent]

/-- A symbol has a grade just if it occurs in a literal. -/
theorem isSome_grade?_iff :
    (grade? literals symbol).isSome = true ↔ ∃ literal ∈ literals, symbol ∈ literal.toList := by
  unfold grade?
  split
  · next spelled =>
      obtain ⟨literal, listed, alone⟩ := List.any_eq_true.mp spelled
      have occurs : symbol ∈ literal.toList := by
        rw [eq_of_beq alone]
        exact List.mem_singleton_self symbol
      exact iff_of_true rfl ⟨literal, listed, occurs⟩
  · split
    · next occurring => simpa using occurring
    · next missing => simpa using missing

theorem grade?_congr (same : ∀ literal, literal ∈ literals ↔ literal ∈ others)
    (symbol : Char) : grade? literals symbol = grade? others symbol := by
  simp only [grade?, List.any_eq_true, same]

/-- Further literals leave a grade as it is or raise it. -/
theorem exists_grade?_of_subset {grade : Grade} (contained : ∀ literal ∈ literals, literal ∈ others)
    (graded : grade? literals symbol = some grade) :
    ∃ raised, grade? others symbol = some raised ∧ grade.points ≤ raised.points := by
  cases grade with
  | whole =>
      obtain ⟨literal, listed, alone⟩ := grade?_eq_whole_iff.mp graded
      exact ⟨.whole, grade?_eq_whole_iff.mpr ⟨literal, contained literal listed, alone⟩, by decide⟩
  | part =>
      obtain ⟨literal, listed, occurs⟩ :=
        isSome_grade?_iff.mp (Option.isSome_iff_exists.mpr ⟨_, graded⟩)
      obtain ⟨raised, found⟩ := Option.isSome_iff_exists.mp
        (isSome_grade?_iff.mpr ⟨literal, contained literal listed, occurs⟩)
      refine ⟨raised, found, ?_⟩
      cases raised <;> decide

end

/-! ## Visible symbols -/

theorem mem_visible_iff {symbols : SortedSet Char} {symbol : Char} :
    symbol ∈ visible symbols ↔ symbol ∈ symbols ∧ Text.isBlank symbol = false := by
  rw [visible, List.mem_filter, Bool.not_eq_true', SortedSet.mem_def]

theorem visible_ne_nil_iff {symbols : SortedSet Char} :
    visible symbols ≠ [] ↔ ∃ symbol ∈ symbols, Text.isBlank symbol = false := by
  rw [ne_eq, List.eq_nil_iff_forall_not_mem, not_forall_not]
  simp only [mem_visible_iff]

/-- White space does not show in what is visible. -/
theorem visible_congr {symbols others : SortedSet Char}
    (same : ∀ symbol, Text.isBlank symbol = false → (symbol ∈ others ↔ symbol ∈ symbols)) :
    visible others = visible symbols := by
  apply (others.increasing.filter _).eq_of_mem_iff (symbols.increasing.filter _)
  intro symbol
  change symbol ∈ visible others ↔ symbol ∈ visible symbols
  rw [mem_visible_iff, mem_visible_iff]
  exact and_congr_left (same symbol)

/-! ## Scores of borders -/

namespace TagRule

variable {rule other : TagRule} {symbols others : SortedSet Char}

theorem isSome_score?_iff :
    (rule.score? symbols).isSome = true ↔
      (∃ symbol ∈ symbols, Text.isBlank symbol = false) ∧
        ∀ symbol ∈ symbols, Text.isBlank symbol = false →
          ∃ literal ∈ rule.literals, symbol ∈ literal.toList := by
  rw [score?, Option.isSome_map, grades?, ← visible_ne_nil_iff]
  by_cases empty : visible symbols = []
  · simp [empty]
  · rw [if_neg (by simpa using empty), isSome_mapM_iff]
    simp only [isSome_grade?_iff, mem_visible_iff, and_imp, ne_eq, empty, not_false_eq_true,
      true_and]

/-- The score is the mean of what the grades of the visible symbols count. -/
theorem score?_eq_some_iff {score : Float} :
    rule.score? symbols = some score ↔
      visible symbols ≠ [] ∧ ∃ grades : List Grade,
        List.Forall₂ (fun symbol grade => grade? rule.literals symbol = some grade)
          (visible symbols) grades ∧
        score = mean (grades.map Grade.points) := by
  rw [score?, Option.map_eq_some_iff, grades?]
  by_cases empty : visible symbols = []
  · simp [empty]
  · rw [if_neg (by simpa using empty)]
    simp only [mapM_eq_some_iff, ne_eq, empty, not_false_eq_true, true_and, eq_comm (b := score)]

theorem score?_congr (graded : grade? other.literals = grade? rule.literals)
    (seen : visible others = visible symbols) : other.score? others = rule.score? symbols := by
  simp only [score?, grades?, graded, seen]

/-- The score of a border depends only on the set of the literals and on the visible symbols.
It is there just if there are visible symbols and each of them occurs in a literal.  One
literal more keeps it there and lowers the score of no symbol. -/
theorem score?_coverage (rule : TagRule) (symbols : SortedSet Char) :
    ((rule.score? symbols).isSome = true ↔
      (∃ symbol ∈ symbols, Text.isBlank symbol = false) ∧
        ∀ symbol ∈ symbols, Text.isBlank symbol = false →
          ∃ literal ∈ rule.literals, symbol ∈ literal.toList) ∧
    (∀ literals, (∀ literal, literal ∈ literals ↔ literal ∈ rule.literals) →
      { rule with literals }.score? symbols = rule.score? symbols) ∧
    (∀ others : SortedSet Char,
      (∀ symbol, Text.isBlank symbol = false → (symbol ∈ others ↔ symbol ∈ symbols)) →
        rule.score? others = rule.score? symbols) ∧
    ((rule.score? symbols).isSome = true → ∀ literal,
      let longer := { rule with literals := rule.literals ++ [literal] }
      (longer.score? symbols).isSome = true ∧
        ∀ symbol grade, grade? rule.literals symbol = some grade →
          ∃ raised, grade? longer.literals symbol = some raised ∧
            grade.points ≤ raised.points) := by
  refine ⟨isSome_score?_iff, ?_, ?_, ?_⟩
  · intro literals same
    exact score?_congr (funext (grade?_congr same)) rfl
  · intro others same
    exact score?_congr rfl (visible_congr same)
  · intro scored literal longer
    have contained : ∀ text ∈ rule.literals, text ∈ longer.literals :=
      fun _ => List.mem_append_left [literal]
    refine ⟨?_, fun _ _ => exists_grade?_of_subset contained⟩
    rw [isSome_score?_iff] at scored ⊢
    obtain ⟨any, covered⟩ := scored
    refine ⟨any, ?_⟩
    intro symbol member shown
    obtain ⟨text, listed, occurs⟩ := covered symbol member shown
    exact ⟨text, contained text listed, occurs⟩

end TagRule

end ScreenSight.Hunt
