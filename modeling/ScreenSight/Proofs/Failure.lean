import Mathlib.Data.List.Forall2
import ScreenSight.Failure

/-!
# Success and failure of steps

Steps that may fail are put together by sequencing.  The whole succeeds just if
every step does, and else it fails as one of them does.
-/

namespace ScreenSight.Failure

variable {ε α β : Type}

theorem bind_eq_ok_iff {first : Except ε α} {next : α → Except ε β} {value : β} :
    (first >>= next) = .ok value ↔
      ∃ middle, first = .ok middle ∧ next middle = .ok value := by
  cases first <;> simp [bind, Except.bind]

theorem mapError_error (change : ε → ε) (failure : ε) :
    (.error failure : Except ε α).mapError change = .error (change failure) := rfl

theorem mapError_ok (change : ε → ε) (value : α) :
    (.ok value : Except ε α).mapError change = .ok value := rfl

theorem map_eq_error_iff {change : α → β} {result : Except ε α} {failure : ε} :
    result.map change = .error failure ↔ result = .error failure := by
  cases result <;> simp [Except.map]

theorem map_eq_ok_iff {change : α → β} {result : Except ε α} {value : β} :
    result.map change = .ok value ↔ ∃ inner, result = .ok inner ∧ change inner = value := by
  cases result <;> simp [Except.map]

theorem trap_eq_ok_iff {condition : Bool} {message : String} {value : Unit} :
    trap condition message = .ok value ↔ condition = true := by
  cases condition <;> simp [trap]

theorem mapM_cons_eq_ok_iff {step : α → Except ε β} {head : α} {tail : List α}
    {results : List β} :
    (head :: tail).mapM step = .ok results ↔
      ∃ first others, step head = .ok first ∧ tail.mapM step = .ok others ∧
        first :: others = results := by
  rw [List.mapM_cons, bind_eq_ok_iff]
  constructor
  · intro succeeded
    obtain ⟨first, headOk, succeeded⟩ := succeeded
    obtain ⟨others, tailOk, succeeded⟩ := bind_eq_ok_iff.mp succeeded
    exact ⟨first, others, headOk, tailOk, Except.ok.inj succeeded⟩
  · intro succeeded
    obtain ⟨first, others, headOk, tailOk, made⟩ := succeeded
    exact ⟨first, headOk, bind_eq_ok_iff.mpr ⟨others, tailOk, congrArg Except.ok made⟩⟩

/-- Each result of some steps is the result of one of them. -/
theorem exists_of_mem_mapM {step : α → Except ε β} {items : List α} {results : List β}
    (succeeded : items.mapM step = .ok results) {result : β} (member : result ∈ results) :
    ∃ item ∈ items, step item = .ok result := by
  induction items generalizing results with
  | nil =>
      cases succeeded
      cases member
  | cons head tail induction =>
      obtain ⟨first, others, headOk, tailOk, rfl⟩ := mapM_cons_eq_ok_iff.mp succeeded
      rcases List.mem_cons.mp member with rfl | later
      · exact ⟨head, List.mem_cons_self, headOk⟩
      · obtain ⟨item, present, itemOk⟩ := induction tailOk later
        exact ⟨item, List.mem_cons_of_mem head present, itemOk⟩

/-- Steps that succeed elsewhere in the same way do so one after the other. -/
theorem mapM_map_eq_ok {γ δ : Type} {step : α → Except ε β} {other : γ → Except ε δ}
    {place : α → γ} {change : β → δ} {items : List α} {results : List β}
    (succeeded : items.mapM step = .ok results)
    (each : ∀ item ∈ items, ∀ result, step item = .ok result →
      other (place item) = .ok (change result)) :
    (items.map place).mapM other = .ok (results.map change) := by
  induction items generalizing results with
  | nil =>
      cases succeeded
      rfl
  | cons head tail induction =>
      obtain ⟨first, others, headOk, tailOk, rfl⟩ := mapM_cons_eq_ok_iff.mp succeeded
      have sameHead := each head List.mem_cons_self first headOk
      have sameTail := induction tailOk fun item member =>
        each item (List.mem_cons_of_mem head member)
      exact mapM_cons_eq_ok_iff.mpr ⟨_, _, sameHead, sameTail, rfl⟩

/-- Whatever goes wrong is of some kind. -/
def FailsAs (kind : ε → Prop) (result : Except ε α) : Prop :=
  ∀ failure, result = .error failure → kind failure

namespace FailsAs

variable {kind : ε → Prop}

theorem ok (value : α) : FailsAs kind (.ok value) := by
  intro failure failed
  cases failed

theorem error {failure : ε} (holds : kind failure) :
    FailsAs kind (.error failure : Except ε α) := by
  intro other failed
  cases failed
  exact holds

theorem imp {other : ε → Prop} {result : Except ε α} (fails : FailsAs kind result)
    (weaker : ∀ failure, kind failure → other failure) : FailsAs other result := by
  intro failure failed
  exact weaker failure (fails failure failed)

theorem bind {first : Except ε α} {next : α → Except ε β}
    (early : FailsAs kind first) (late : ∀ value, FailsAs kind (next value)) :
    FailsAs kind (first >>= next) := by
  intro failure failed
  cases reached : first with
  | error other =>
      rw [reached] at failed
      cases failed
      exact early _ reached
  | ok value =>
      rw [reached] at failed
      exact late value failure failed

/-- The first step works on the head of a list, and the others on the items behind it. -/
theorem cons {γ : Type} {kinds : γ → ε → Prop} {head : γ} {tail : List γ}
    {first : Except ε α} {next : α → Except ε β} (early : FailsAs (kinds head) first)
    (late : ∀ value, FailsAs (fun failure => ∃ item ∈ tail, kinds item failure) (next value)) :
    FailsAs (fun failure => ∃ item ∈ head :: tail, kinds item failure) (first >>= next) := by
  refine bind (early.imp ?_) fun value => (late value).imp ?_
  · intro failure holds
    exact ⟨head, List.mem_cons_self, holds⟩
  · rintro failure ⟨item, listed, holds⟩
    exact ⟨item, List.mem_cons_of_mem head listed, holds⟩

theorem mapM {step : α → Except ε β} (each : ∀ item, FailsAs kind (step item))
    (items : List α) : FailsAs kind (items.mapM step) := by
  induction items with
  | nil => exact ok []
  | cons head tail induction =>
      rw [List.mapM_cons]
      apply bind (each head)
      intro first
      apply bind induction
      intro others
      exact ok (first :: others)

end FailsAs

end ScreenSight.Failure

namespace ScreenSight

/-! ## Steps that fail without a reason -/

variable {α β : Type} {step : α → Option β} {items : List α}

theorem mapM_eq_some_iff {results : List β} :
    items.mapM step = some results ↔
      List.Forall₂ (fun item result => step item = some result) items results := by
  induction items generalizing results with
  | nil => simp [eq_comm]
  | cons head tail induction =>
      rw [List.mapM_cons, List.forall₂_cons_left_iff]
      simp only [← induction, Option.bind_eq_bind, Option.bind_eq_some_iff, Option.pure_def,
        Option.some.injEq]
      constructor
      · intro read
        obtain ⟨first, headRead, others, tailRead, rfl⟩ := read
        exact ⟨first, others, headRead, tailRead, rfl⟩
      · intro read
        obtain ⟨first, others, headRead, tailRead, rfl⟩ := read
        exact ⟨first, headRead, others, tailRead, rfl⟩

theorem isSome_mapM_iff :
    (items.mapM step).isSome = true ↔ ∀ item ∈ items, (step item).isSome = true := by
  induction items with
  | nil => simp
  | cons head tail induction =>
      rw [List.mapM_cons, List.forall_mem_cons, ← induction]
      cases step head with
      | none => simp
      | some first =>
          cases tail.mapM step with
          | none => simp
          | some others => simp

end ScreenSight
