import ScreenSight.Regex.Threads

/-!
# Where threads lead

A program accepts from a place of a text if some way through its instructions leads to the
end of it.  A search keeps one thread of all those that come to the same address at the same
place, and nothing is lost by that: it has a match just if the program accepts from the
address of a thread, or from the beginning at a place where threads are still started.
-/

namespace ScreenSight.Regex

/-- The place of a text behind some characters. -/
def placeOf (text : List Char) (position : Nat) : Place :=
  ⟨position, if position = 0 then none else text[position - 1]?, text[position]?⟩

/-- The addresses that follow on one where no character is taken. -/
def moves (program : Array Instruction) (place : Place) (address : Nat) : List Nat :=
  match program[address]? with
  | some (.check assertion) =>
      if assertion.holds place.before place.after then [address + 1] else []
  | some (.mark _) => [address + 1]
  | some (.jump target) => [target]
  | some (.fork first second) => [first, second]
  | _ => []

/-- A way through a program leads from an address at a place of a text to an accepting one. -/
inductive Leads (program : Array Instruction) (text : List Char) : Nat → Nat → Prop
  | accept {position address : Nat} :
      program[address]? = some .accept → Leads program text position address
  | take {position address : Nat} {members : CharClass} {c : Char} :
      program[address]? = some (.take members) → text[position]? = some c →
      members.holds c = true → Leads program text (position + 1) (address + 1) →
      Leads program text position address
  | move {position address next : Nat} :
      next ∈ moves program (placeOf text position) address → Leads program text position next →
      Leads program text position address

/-- A thread is at the end of its way, or takes a character on it. -/
def Stops (program : Array Instruction) (text : List Char) (position address : Nat) : Prop :=
  program[address]? = some .accept ∨
    ∃ members c, program[address]? = some (.take members) ∧ text[position]? = some c ∧
      members.holds c = true ∧ Leads program text (position + 1) (address + 1)

variable {program : Array Instruction} {text : List Char} {position : Nat}

theorem Stops.leads {address : Nat} (stops : Stops program text position address) :
    Leads program text position address := by
  obtain accepting | ⟨_, _, taking, next, holds, leads⟩ := stops
  · exact .accept accepting
  · exact .take taking next holds leads

/-! ## Following threads -/

section

variable {place : Place} {steps : Nat} {threads others : List Thread} {thread : Thread}
  {seen : Array Bool} {waiting : Array Thread}

/-- Whether an address waits for a character or accepts. -/
def Waits (program : Array Instruction) (address : Nat) : Prop :=
  program[address]? = some .accept ∨ ∃ members, program[address]? = some (.take members)

/-- A new address is marked as seen.  The thread waits there, or the threads of the next
addresses come in its place. -/
theorem follow_cons (program : Array Instruction) (place : Place) (steps : Nat)
    (others : List Thread) (waiting : Array Thread)
    (fresh : seen.getD thread.address true = false) :
    ∃ (next : List Thread) (more : Array Thread),
      follow program place (steps + 1) (thread :: others) seen waiting =
        follow program place steps (next ++ others) (seen.setIfInBounds thread.address true) more ∧
      next.map Thread.address = moves program place thread.address ∧ next.length ≤ 2 ∧
      (more = waiting ∧ ¬Waits program thread.address ∨ more = waiting.push thread) := by
  rw [follow, if_neg (by simp [fresh])]
  simp only [moves, Waits]
  cases program[thread.address]? with
  | none => exact ⟨[], waiting, rfl, rfl, by simp, .inl ⟨rfl, by simp⟩⟩
  | some instruction =>
      cases instruction with
      | take | accept => exact ⟨[], _, rfl, rfl, by simp, .inr rfl⟩
      | check assertion =>
          by_cases holds : assertion.holds place.before place.after = true
          · exact ⟨[_], waiting, if_pos holds, (if_pos holds).symm, by simp, .inl ⟨rfl, by simp⟩⟩
          · exact ⟨[], waiting, if_neg holds, (if_neg holds).symm, by simp, .inl ⟨rfl, by simp⟩⟩
      | mark | jump => exact ⟨[_], waiting, rfl, rfl, by simp, .inl ⟨rfl, by simp⟩⟩
      | fork => exact ⟨[_, _], waiting, rfl, rfl, by simp, .inl ⟨rfl, by simp⟩⟩

/-- What is followed comes from a thread that it was begun with. -/
theorem leads_of_mem_follow
    (member : thread ∈ follow program (placeOf text position) steps threads seen waiting)
    (leads : Leads program text position thread.address) :
    thread ∈ waiting.toList ∨ ∃ first ∈ threads, Leads program text position first.address := by
  induction steps generalizing threads seen waiting with
  | zero => exact .inl member
  | succ steps induction =>
      match threads with
      | [] => exact .inl member
      | head :: others =>
          by_cases known : seen.getD head.address true = true
          · rw [follow, if_pos known] at member
            refine (induction member).imp_right ?_
            rintro ⟨first, listed, leads⟩
            exact ⟨first, List.mem_cons_of_mem head listed, leads⟩
          · obtain ⟨next, more, followed, moved, _, added⟩ := follow_cons program
              (placeOf text position) steps others waiting (Bool.eq_false_iff.mpr known)
            rw [followed] at member
            rcases induction member with earlier | ⟨first, listed, leads⟩
            · rcases added with ⟨rfl, _⟩ | rfl
              · exact .inl earlier
              · rw [Array.toList_push, List.mem_append, List.mem_singleton] at earlier
                refine earlier.imp_right ?_
                rintro rfl
                exact ⟨thread, List.mem_cons_self, leads⟩
            · refine .inr ?_
              rcases List.mem_append.mp listed with near | far
              · have move : first.address ∈ moves program (placeOf text position) head.address :=
                  moved ▸ List.mem_map_of_mem near
                exact ⟨head, List.mem_cons_self, .move move leads⟩
              · exact ⟨first, List.mem_cons_of_mem head far, leads⟩

/-- Every address that has been seen is kept if it waits, and the addresses that follow on it
have been seen too or will be.  There are no addresses but those of the program to see. -/
structure Explored (program : Array Instruction) (place : Place) (seen : Array Bool)
    (threads waiting : List Thread) : Prop where
  size : seen.size = program.size
  waits : ∀ address, seen.getD address true = true → Waits program address →
    ∃ thread ∈ waiting, thread.address = address
  moves : ∀ address, seen.getD address true = true →
    ∀ next ∈ moves program place address,
      seen.getD next true = true ∨ ∃ thread ∈ threads, thread.address = next

theorem getD_setIfInBounds_iff {index address : Nat} :
    (seen.setIfInBounds index true).getD address true = true ↔
      seen.getD address true = true ∨ address = index := by
  rw [Array.getD_eq_getD_getElem?, Array.getD_eq_getD_getElem?, Array.getElem?_setIfInBounds]
  by_cases same : index = address
  · subst same
    by_cases inside : index < seen.size <;> simp [inside]
  · simp [same, Ne.symm same]

theorem count_setIfInBounds {index : Nat} (fresh : seen.getD index true = false) :
    (seen.setIfInBounds index true).count false + 1 = seen.count false := by
  have inside : index < seen.size := by
    refine Nat.lt_of_not_le fun outside => ?_
    simp [Array.getD, Nat.not_lt.mpr outside] at fresh
  have unseen : seen[index] = false := by simpa [Array.getD, inside] using fresh
  have listed : false ∈ seen := unseen ▸ Array.getElem_mem inside
  have positive := Array.count_pos_iff.mpr listed
  rw [Array.setIfInBounds, dif_pos inside, Array.count_set, unseen]
  simp
  omega

theorem Explored.skip {head : Thread} {waiting : List Thread}
    (explored : Explored program place seen (head :: others) waiting)
    (known : seen.getD head.address true = true) :
    Explored program place seen others waiting := by
  refine ⟨explored.size, explored.waits, ?_⟩
  intro address old next follows
  rcases explored.moves address old next follows with before | ⟨thread, listed, rfl⟩
  · exact .inl before
  · rcases List.mem_cons.mp listed with rfl | later
    · exact .inl known
    · exact .inr ⟨thread, later, rfl⟩

theorem Explored.see {head : Thread} {next : List Thread} {more : Array Thread}
    (explored : Explored program place seen (head :: others) waiting.toList)
    (moved : next.map Thread.address = Regex.moves program place head.address)
    (added : more = waiting ∧ ¬Waits program head.address ∨ more = waiting.push head) :
    Explored program place (seen.setIfInBounds head.address true) (next ++ others)
      more.toList := by
  refine ⟨by rw [Array.size_setIfInBounds, explored.size], ?_, ?_⟩
  · intro address old stops
    rcases getD_setIfInBounds_iff.mp old with old | rfl
    · obtain ⟨thread, listed, same⟩ := explored.waits address old stops
      refine ⟨thread, ?_, same⟩
      rcases added with ⟨rfl, _⟩ | rfl
      · exact listed
      · rw [Array.toList_push]
        exact List.mem_append_left _ listed
    · rcases added with ⟨_, goes⟩ | rfl
      · exact absurd stops goes
      · exact ⟨head, by simp, rfl⟩
  · intro address old target follows
    rw [getD_setIfInBounds_iff]
    rcases getD_setIfInBounds_iff.mp old with old | rfl
    · rcases explored.moves address old target follows with before | ⟨thread, listed, rfl⟩
      · exact .inl (.inl before)
      · rcases List.mem_cons.mp listed with rfl | later
        · exact .inl (.inr rfl)
        · exact .inr ⟨thread, List.mem_append_right next later, rfl⟩
    · rw [← moved] at follows
      obtain ⟨thread, listed, rfl⟩ := List.mem_map.mp follows
      exact .inr ⟨thread, List.mem_append_left others listed, rfl⟩

/-- With enough steps all threads are followed to the end: each step takes a thread away, or
marks an address and adds two threads at most. -/
theorem Explored.follow (explored : Explored program place seen threads waiting.toList)
    (enough : threads.length + 2 * seen.count false ≤ steps) :
    ∃ all, Explored program place all [] (follow program place steps threads seen waiting) ∧
      ∀ address, (seen.getD address true = true ∨ ∃ thread ∈ threads, thread.address = address) →
        all.getD address true = true := by
  induction steps generalizing threads seen waiting with
  | zero =>
      obtain rfl : threads = [] := List.length_eq_zero_iff.mp (by omega)
      exact ⟨seen, explored, by simp⟩
  | succ steps induction =>
      match threads with
      | [] => exact ⟨seen, explored, by simp⟩
      | head :: others =>
          rw [List.length_cons] at enough
          by_cases known : seen.getD head.address true = true
          · obtain ⟨all, complete, covers⟩ := induction (explored.skip known) (by omega)
            rw [Regex.follow, if_pos known]
            refine ⟨all, complete, ?_⟩
            rintro address (old | ⟨thread, listed, rfl⟩)
            · exact covers address (.inl old)
            · rcases List.mem_cons.mp listed with rfl | later
              · exact covers _ (.inl known)
              · exact covers _ (.inr ⟨thread, later, rfl⟩)
          · have fresh := Bool.eq_false_iff.mpr known
            have marked := count_setIfInBounds fresh
            obtain ⟨next, more, followed, moved, few, added⟩ :=
              follow_cons program place steps others waiting fresh
            obtain ⟨all, complete, covers⟩ := induction (explored.see moved added) (by
              rw [List.length_append]
              omega)
            rw [followed]
            refine ⟨all, complete, ?_⟩
            rintro address (old | ⟨thread, listed, rfl⟩)
            · exact covers address (.inl (getD_setIfInBounds_iff.mpr (.inl old)))
            · rcases List.mem_cons.mp listed with rfl | later
              · exact covers _ (.inl (getD_setIfInBounds_iff.mpr (.inr rfl)))
              · exact covers _ (.inr ⟨thread, List.mem_append_right next later, rfl⟩)

/-- Where everything has been explored, a way from an address that was seen stops at a thread
that waits. -/
theorem Explored.exists_stops {waiting : List Thread} {address : Nat}
    (explored : Explored program (placeOf text position) seen [] waiting)
    (known : seen.getD address true = true) (leads : Leads program text position address) :
    ∃ thread ∈ waiting, Stops program text position thread.address := by
  induction leads with
  | accept accepting =>
      obtain ⟨thread, listed, rfl⟩ := explored.waits _ known (.inl accepting)
      exact ⟨thread, listed, .inl accepting⟩
  | take taking next holds leads _ =>
      obtain ⟨thread, listed, rfl⟩ := explored.waits _ known (.inr ⟨_, taking⟩)
      exact ⟨thread, listed, .inr ⟨_, _, taking, next, holds, leads⟩⟩
  | move follows _ induction =>
      rcases explored.moves _ known _ follows with before | ⟨_, listed, _⟩
      · exact induction explored before
      · cases listed

/-- Following loses no way: one leads from a thread just if one stops at a thread that it ends
with. -/
theorem exists_stops_follow_iff (threads : List Thread) :
    (∃ thread ∈ follow program (placeOf text position)
        (threads.length + 2 * program.size + 1) threads (Array.replicate program.size false) #[],
      Stops program text position thread.address) ↔
      ∃ thread ∈ threads, Leads program text position thread.address := by
  constructor
  · rintro ⟨thread, member, stops⟩
    rcases leads_of_mem_follow member stops.leads with none | found
    · cases none
    · exact found
  · rintro ⟨thread, listed, leads⟩
    have outside {address : Nat}
        (known : (Array.replicate program.size false).getD address true = true) :
        program[address]? = none := by
      by_cases inside : address < program.size
      · simp [Array.getD, inside] at known
      · simpa using inside
    have start : Explored program (placeOf text position) (Array.replicate program.size false)
        threads (#[] : Array Thread).toList := by
      refine ⟨Array.size_replicate, ?_, ?_⟩
      · intro address known waits
        simp [Waits, outside known] at waits
      · intro address known next follows
        simp [moves, outside known] at follows
    have enough : threads.length + 2 * (Array.replicate program.size false).count false ≤
        threads.length + 2 * program.size + 1 := by
      rw [Array.count_replicate_self]
      omega
    obtain ⟨all, complete, covers⟩ := start.follow enough
    exact complete.exists_stops (covers _ (.inr ⟨thread, listed, rfl⟩)) leads

end

/-! ## Running threads -/

/-- Taking a character loses no way either: one that stops ends there, or leads on behind the
character. -/
theorem advance_iff (threads : List Thread) :
    ((advance program text[position]? threads).2.isSome = true ∨
        ∃ thread ∈ (advance program text[position]? threads).1,
          Leads program text (position + 1) thread.address) ↔
      ∃ thread ∈ threads, Stops program text position thread.address := by
  induction threads with
  | nil => simp [advance]
  | cons head others induction =>
      simp only [List.mem_cons, exists_eq_or_imp, ← induction]
      simp only [Stops, advance]
      cases program[head.address]? with
      | none => simp
      | some instruction =>
          cases instruction with
          | accept => simp
          | take members =>
              cases text[position]? with
              | none => simp
              | some c => by_cases holds : members.holds c = true <;> simp [holds, or_left_comm]
          | _ => simp

/-- The threads at a place, with one that is started there unless there is a match already. -/
def started (fresh found : Option Slots) (threads : List Thread) : List Thread :=
  match fresh with
  | some slots => if found.isNone then threads ++ [⟨0, slots⟩] else threads
  | none => threads

theorem here_iff (program : Array Instruction) (text : List Char) (position : Nat)
    (fresh found : Option Slots) (threads : List Thread) :
    ((run.here program fresh found position (placeOf text position).before threads
          text[position]?).2.isSome = true ∨
        ∃ thread ∈ (run.here program fresh found position (placeOf text position).before threads
          text[position]?).1, Leads program text (position + 1) thread.address) ↔
      (∃ thread ∈ threads, Leads program text position thread.address) ∨
        (fresh.isSome = true ∧ found = none ∧ Leads program text position 0) := by
  have here : run.here program fresh found position (placeOf text position).before threads
      text[position]? =
        advance program text[position]? (follow program (placeOf text position)
          ((started fresh found threads).length + 2 * program.size + 1)
          (started fresh found threads) (Array.replicate program.size false) #[]) := rfl
  rw [here, advance_iff, exists_stops_follow_iff]
  cases fresh with
  | none => simp [started]
  | some slots => cases found <;> simp [started, or_and_right, exists_or]

theorem run_nil (program : Array Instruction) (fresh : Option Slots) (threads : List Thread)
    (found : Option Slots) (position : Nat) (before : Option Char) :
    run program fresh threads found position before [] =
      (run.here program fresh found position before threads none).2.or found := rfl

theorem run_cons (program : Array Instruction) (fresh : Option Slots) (threads : List Thread)
    (found : Option Slots) (position : Nat) (before : Option Char) (c : Char) (rest : List Char) :
    run program fresh threads found position before (c :: rest) =
      let step := run.here program fresh found position before threads (some c)
      if step.1.isEmpty && ((step.2.or found).isSome || fresh.isNone) then step.2.or found
      else run program fresh step.1 (step.2.or found) (position + 1) (some c) rest := rfl

theorem isSome_run_of_found (program : Array Instruction) (fresh : Option Slots)
    (threads : List Thread) {found : Option Slots} (position : Nat) (before : Option Char)
    (rest : List Char) (already : found.isSome = true) :
    (run program fresh threads found position before rest).isSome = true := by
  have still (accepted : Option Slots) : (accepted.or found).isSome = true := by
    cases accepted <;> simp [already]
  induction rest generalizing threads found position before with
  | nil => exact still _
  | cons c rest induction =>
      rw [run_cons]
      dsimp only
      split
      · exact still _
      · refine induction _ _ _ (still _) fun accepted => ?_
        cases accepted <;> simp [still]

theorem advance_none (program : Array Instruction) (threads : List Thread) :
    (advance program none threads).1 = [] := by
  induction threads with
  | nil => rfl
  | cons head others induction =>
      rw [advance]
      cases program[head.address]? with
      | none => exact induction
      | some instruction => cases instruction <;> first | rfl | exact induction

theorem exists_start_iff {starts : Nat → Prop} (inside : position ≤ text.length) :
    (∃ start, position ≤ start ∧ start ≤ text.length ∧ starts start) ↔
      starts position ∨ ∃ start, position + 1 ≤ start ∧ start ≤ text.length ∧ starts start := by
  constructor
  · rintro ⟨start, least, most, holds⟩
    rcases Nat.eq_or_lt_of_le least with rfl | beyond
    · exact .inl holds
    · exact .inr ⟨start, beyond, most, holds⟩
  · rintro (holds | ⟨start, beyond, most, holds⟩)
    · exact ⟨position, Nat.le_refl position, inside, holds⟩
    · exact ⟨start, Nat.le_of_succ_le beyond, most, holds⟩

/-- A search from a place on has a match just if there was one before, or a way leads to an
end from one of the threads or, where threads are started, from the beginning of the program
at some later place. -/
theorem isSome_run_iff (program : Array Instruction) (fresh : Option Slots)
    (threads : List Thread) (found : Option Slots)
    {rest : List Char} (behind : text.drop position = rest) (inside : position ≤ text.length) :
    (run program fresh threads found position (placeOf text position).before rest).isSome = true ↔
      found.isSome = true ∨ (∃ thread ∈ threads, Leads program text position thread.address) ∨
        (fresh.isSome = true ∧ ∃ start, position ≤ start ∧ start ≤ text.length ∧
          Leads program text start 0) := by
  by_cases already : found.isSome = true
  · simp [already, isSome_run_of_found]
  obtain rfl : found = none := by simpa using already
  simp only [Option.isSome_none, Bool.false_eq_true, false_or]
  induction rest generalizing threads position with
  | nil =>
      have last : position = text.length :=
        Nat.le_antisymm inside (List.drop_eq_nil_iff.mp behind)
      have here := here_iff program text position fresh none threads
      rw [List.getElem?_eq_none (Nat.le_of_eq last.symm)] at here
      have ended : (run.here program fresh none position (placeOf text position).before threads
        none).1 = [] := advance_none program _
      have beyond : ¬∃ start, position + 1 ≤ start ∧ start ≤ text.length ∧
          Leads program text start 0 := by
        rintro ⟨start, least, most, _⟩
        omega
      rw [exists_start_iff inside, or_iff_left beyond, run_nil, Option.or_none]
      simpa [ended] using here
  | cons c rest induction =>
      have next : text[position]? = some c := by
        rw [← List.head?_drop, behind, List.head?_cons]
      have remaining : text.drop (position + 1) = rest := by
        rw [← List.tail_drop, behind, List.tail_cons]
      have here := here_iff program text position fresh none threads
      rw [next] at here
      rw [run_cons, exists_start_iff inside]
      generalize run.here program fresh none position (placeOf text position).before threads
        (some c) = step at here
      obtain ⟨others, accepted⟩ := step
      have further := induction others remaining (List.getElem?_eq_some_iff.mp next).1
      rw [show (placeOf text (position + 1)).before = some c by simp [placeOf, next]] at further
      cases accepted with
      | some slots =>
          refine iff_of_true ?_ ?_
          · dsimp only
            split
            · rfl
            · exact isSome_run_of_found program fresh others _ _ _ rfl
          · rcases here.mp (.inl rfl) with listed | ⟨starting, _, leads⟩
            · exact .inl listed
            · exact .inr ⟨starting, .inl leads⟩
      | none =>
          simp only [Option.isSome_none, Bool.false_eq_true, false_or, true_and] at here
          simp only [Option.or_none]
          split
          next ended =>
            simp only [Option.isSome_none, Bool.false_or, Bool.and_eq_true, List.isEmpty_iff,
              Option.isNone_iff_eq_none] at ended
            obtain ⟨rfl, rfl⟩ := ended
            simpa using here
          next =>
            rw [further, here, or_assoc, ← and_or_left]

end ScreenSight.Regex
