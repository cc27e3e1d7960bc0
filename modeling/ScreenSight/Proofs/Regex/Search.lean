import ScreenSight.Proofs.Regex.Threads
import ScreenSight.Regex.Search

/-!
# What searches find

A search finds a match only where a way leads through the program of the expression, whatever
its plan tells of landmarks.  With a plan that tries every place it finds one wherever there is
one.
-/

namespace ScreenSight.Regex

theorem countCharacters_le (bytes : Nat) (text : List Char) :
    countCharacters bytes text ≤ text.length := by
  fun_induction countCharacters bytes text with
  | case1 | case2 => exact Nat.zero_le _
  | case3 bytes c rest induction => exact Nat.succ_le_succ induction

/-- Some way leads through the program of an expression from a place of a text. -/
def MatchesFrom (regex : Regex) (text : List Char) (start : Nat) : Prop :=
  start ≤ text.length ∧ Leads regex.walker.program text start 0

theorem isSome_firstMatch_iff (regex : Regex) (text : List Char) :
    (regex.firstMatch text).isSome = true ↔ ∃ start, regex.MatchesFrom text start := by
  have searched := isSome_run_iff regex.walker.program (some regex.fresh) [] none
    (List.drop_zero (l := text)) (Nat.zero_le _)
  simpa [firstMatch, placeOf, MatchesFrom] using searched

theorem isSome_matchBehind_iff (regex : Regex) {text : List Char} {count : Nat}
    (inside : count ≤ text.length) :
    (regex.matchBehind count text).isSome = true ↔ regex.MatchesFrom text count := by
  have tried := isSome_run_iff regex.walker.program none [⟨0, regex.fresh⟩] none
    rfl inside
  simpa [matchBehind, placeOf, MatchesFrom, inside] using tried

theorem isSome_search_iff (regex : Regex) (text : List Char) :
    (regex.search text).isSome = true ↔
      match regex.finding (text.flatMap String.utf8EncodeChar) with
      | .unknown => ∃ start, regex.MatchesFrom text start
      | .absent => False
      | .start bytes => regex.MatchesFrom text (countCharacters bytes text) := by
  rw [search, Option.isSome_map]
  cases regex.finding (text.flatMap String.utf8EncodeChar) with
  | unknown => exact isSome_firstMatch_iff regex text
  | absent => simp
  | start bytes => exact isSome_matchBehind_iff regex (countCharacters_le bytes text)

/-- What a search finds is a match. -/
theorem exists_matchesFrom_of_search {regex : Regex} {text : List Char}
    (found : (regex.search text).isSome = true) : ∃ start, regex.MatchesFrom text start := by
  rw [isSome_search_iff] at found
  split at found
  · exact found
  · exact found.elim
  · exact ⟨_, found⟩

theorem isSome_firstMatch_of_search {regex : Regex} {text : List Char}
    (found : (regex.search text).isSome = true) : (regex.firstMatch text).isSome = true :=
  (isSome_firstMatch_iff regex text).mpr (exists_matchesFrom_of_search found)

/-- A search that tries every place misses no match. -/
theorem isSome_search_of_everywhere {regex : Regex} (plan : regex.plan = .everywhere)
    (text : List Char) :
    (regex.search text).isSome = true ↔ ∃ start, regex.MatchesFrom text start := by
  rw [isSome_search_iff, finding, plan]

end ScreenSight.Regex
