import ScreenSight.Detection.Identifier
import ScreenSight.Proofs.Ordered.Map

/-!
# Ids

An id determines the kind and the number that it was made of, also if there are
underscores or digits in the kind.  The numbers of a kind grow, so no id is given twice
before the counters begin anew.
-/

namespace ScreenSight

namespace IdCounters

/-! ## Texts -/

theorem toList_idOf (kind : String) (number : Nat) :
    (idOf kind number).toList = kind.toList ++ '_' :: Nat.toDigits 10 number := by
  change (kind ++ "_" ++ number.repr).toList = _
  rw [String.toList_append, String.toList_append, Nat.toList_repr, List.append_assoc]
  rfl

theorem not_underscore {number : Nat} {c : Char} (digit : c ∈ (Nat.toDigits 10 number).reverse) :
    (c != '_') = true := by
  have numeral := Nat.isDigit_of_mem_toDigits (by decide) (by decide) (List.mem_reverse.mp digit)
  rw [bne_iff_ne]
  rintro rfl
  exact absurd numeral (by decide)

/-- The last underscore of an id tells its parts apart. -/
theorem idOf_injective {kind other : String} {number count : Nat}
    (same : idOf kind number = idOf other count) : kind = other ∧ number = count := by
  have letters : (Nat.toDigits 10 number).reverse ++ '_' :: kind.toList.reverse =
      (Nat.toDigits 10 count).reverse ++ '_' :: other.toList.reverse := by
    have backwards := congrArg (fun id => id.toList.reverse) same
    simpa [toList_idOf] using backwards
  have numbers := congrArg (List.takeWhile (· != '_')) letters
  have kinds := congrArg (List.dropWhile (· != '_')) letters
  rw [List.takeWhile_append_of_pos (fun _ => not_underscore),
    List.takeWhile_append_of_pos (fun _ => not_underscore)] at numbers
  rw [List.dropWhile_append_of_pos (fun _ => not_underscore),
    List.dropWhile_append_of_pos (fun _ => not_underscore)] at kinds
  constructor
  · apply String.toList_inj.mp
    simpa using kinds
  · have digits : Nat.toDigits 10 number = Nat.toDigits 10 count := by simpa using numbers
    have values := congrArg (fun digits => Nat.ofDigitChars 10 digits 0) digits
    simpa using values

theorem count_next (counters : IdCounters) (kind other : String) :
    (counters.next kind).2.count other =
      if other = kind then counters.count kind + 1 else counters.count other := by
  rw [next, count, SortedMap.get?_insert]
  split <;> rfl

/-! ## Runs -/

/-- The ids of some kinds, given one after the other. -/
def issue (counters : IdCounters) : List String → List String
  | [] => []
  | kind :: rest => (counters.next kind).1 :: issue (counters.next kind).2 rest

/-- The counters when ids of some kinds have been given. -/
def advance (counters : IdCounters) (kinds : List String) : IdCounters :=
  kinds.foldl (fun current kind => (current.next kind).2) counters

theorem issue_append_singleton (counters : IdCounters) (kinds : List String) (kind : String) :
    counters.issue (kinds ++ [kind]) =
      counters.issue kinds ++ [((counters.advance kinds).next kind).1] := by
  induction kinds generalizing counters with
  | nil => rfl
  | cons first rest induction =>
      rw [List.cons_append, issue, induction]
      rfl

theorem advance_append_singleton (counters : IdCounters) (kinds : List String) (kind : String) :
    counters.advance (kinds ++ [kind]) = ((counters.advance kinds).next kind).2 :=
  List.foldl_concat _ counters kind kinds

/-- The number of an id counts its kind up to its place. -/
theorem getElem?_issue (counters : IdCounters) (kinds : List String) (place : Nat) :
    (counters.issue kinds)[place]? = kinds[place]?.map fun kind =>
      idOf kind (counters.count kind + (kinds.take (place + 1)).count kind) := by
  induction kinds generalizing counters place with
  | nil => rfl
  | cons first rest induction =>
      cases place with
      | zero => simp [issue, next]
      | succ place =>
          rw [issue, List.getElem?_cons_succ, List.getElem?_cons_succ, induction]
          congr 1
          funext kind
          rw [count_next, List.take_succ_cons, List.count_cons]
          by_cases same : kind = first
          · subst same
            simp only [if_true, beq_self_eq_true]
            rw [Nat.add_assoc, Nat.add_comm 1]
          · simp [same, Ne.symm same]

/-- An id that is given later has a number that was not reached before. -/
theorem exists_of_mem_issue {counters : IdCounters} {kinds : List String} {id : String}
    (given : id ∈ counters.issue kinds) :
    ∃ kind number, id = idOf kind number ∧ counters.count kind < number := by
  obtain ⟨place, found⟩ := List.mem_iff_getElem?.mp given
  rw [getElem?_issue] at found
  obtain ⟨kind, stands, rfl⟩ := Option.map_eq_some_iff.mp found
  refine ⟨kind, _, rfl, Nat.lt_add_of_pos_right ?_⟩
  apply List.count_pos_iff.mpr
  rw [List.take_add_one, stands]
  exact List.mem_append_right _ (List.mem_singleton_self kind)

/-- Counters that do not begin anew give every id once. -/
theorem nodup_issue (counters : IdCounters) (kinds : List String) :
    (counters.issue kinds).Nodup := by
  induction kinds generalizing counters with
  | nil => exact List.nodup_nil
  | cons first rest induction =>
      refine List.nodup_cons.mpr ⟨?_, induction _⟩
      intro again
      obtain ⟨kind, number, same, beyond⟩ := exists_of_mem_issue again
      obtain ⟨rfl, rfl⟩ := idOf_injective same
      rw [count_next, if_pos rfl] at beyond
      exact absurd beyond (Nat.lt_irrefl _)

/-! ## Requests -/

/-- What counters are asked for. -/
inductive Request where
  /-- The next id of a kind. -/
  | next (kind : String)
  /-- To begin anew. -/
  | reset

/-- The answers to some requests; there is none to a reset. -/
def serve (counters : IdCounters) : List Request → List (Option String)
  | [] => []
  | .next kind :: rest => some (counters.next kind).1 :: serve (counters.next kind).2 rest
  | .reset :: rest => none :: serve zero rest

/-- Earlier requests only show in the counters that they leave. -/
theorem exists_serve_append (counters : IdCounters) (earlier rest : List Request) :
    ∃ reached, counters.serve (earlier ++ rest) = counters.serve earlier ++ serve reached rest := by
  induction earlier generalizing counters with
  | nil => exact ⟨counters, rfl⟩
  | cons request earlier induction =>
      cases request with
      | next kind =>
          obtain ⟨reached, served⟩ := induction (counters.next kind).2
          exact ⟨reached, congrArg (some (counters.next kind).1 :: ·) served⟩
      | reset =>
          obtain ⟨reached, served⟩ := induction zero
          exact ⟨reached, congrArg (none :: ·) served⟩

theorem serve_next_append (counters : IdCounters) (kinds : List String) (later : List Request) :
    counters.serve (kinds.map Request.next ++ later) =
      (counters.issue kinds).map some ++ serve (counters.advance kinds) later := by
  induction kinds generalizing counters with
  | nil => rfl
  | cons kind rest induction =>
      exact congrArg (some (counters.next kind).1 :: ·) (induction (counters.next kind).2)

end IdCounters

end ScreenSight
