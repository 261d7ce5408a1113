import Mathlib.Data.List.Basic

/-!
# Computations that may fail

Inversion rules for computations in `Except`: a sequence that returns has
returned at every step. A proof about fallible code peels one step at a time
with these rules instead of unfolding the sequence.
-/

namespace LakehouseOps
namespace Library
namespace Fallible

variable {Error Value Result : Type}

/-- A sequence returns exactly when both of its parts do. -/
theorem bind_eq_ok_iff
    {first : Except Error Value}
    {next : Value -> Except Error Result}
    {result : Result} :
    (first >>= next) = .ok result ↔
      Exists fun value => first = .ok value ∧ next value = .ok result := by
  cases first with
  | error problem => simp [bind, Except.bind]
  | ok value => simp [bind, Except.bind]

/-- A sequence goes on with the value of its first part. -/
theorem ok_bind (value : Value) (next : Value -> Except Error Result) :
    ((.ok value : Except Error Value) >>= next) = next value := rfl

/-- Fail with the given error when a condition holds. -/
def reject
    (condition : Prop)
    [Decidable condition]
    (problem : Error) : Except Error Unit :=
  if condition then .error problem else .ok ()

/-- A rejection lets the computation go on exactly when its condition fails. -/
@[simp] theorem reject_eq_ok_iff
    {condition : Prop}
    [Decidable condition]
    {problem : Error}
    {result : Unit} :
    reject condition problem = .ok result ↔ ¬condition := by
  by_cases holds : condition <;> simp [reject, holds]

/-- A sequence that starts with a rejection fails where the rejection does, or after it. -/
theorem reject_bind_eq_error_iff
    {condition : Prop}
    [Decidable condition]
    {problem failure : Error}
    {next : Unit -> Except Error Result} :
    (reject condition problem >>= next) = .error failure ↔
      (condition ∧ problem = failure) ∨ (¬condition ∧ next () = .error failure) := by
  by_cases holds : condition <;> simp [reject, holds, bind, Except.bind]

/-- A sequence goes on after a rejection whose condition fails. -/
theorem reject_bind_of_not
    {condition : Prop}
    [Decidable condition]
    {problem : Error}
    {next : Unit -> Except Error Result}
    (fails : ¬condition) :
    (reject condition problem >>= next) = next () := by
  rw [reject, if_neg fails]
  rfl

/-- A check of every element of a list passes exactly when it passes for each
of them. -/
theorem forM_eq_ok_iff
    {check : Value -> Except Error PUnit}
    {values : List Value} :
    values.forM check = .ok () ↔
      forall value, value ∈ values -> check value = .ok () := by
  induction values with
  | nil => simp [pure, Except.pure]
  | cons head tail inductionHypothesis =>
      simp only [List.forM_eq_forM, List.forM_cons, bind_eq_ok_iff,
        List.mem_cons, forall_eq_or_imp] at inductionHypothesis ⊢
      rw [inductionHypothesis]
      constructor
      · rintro ⟨⟨⟩, headPasses, tailPasses⟩
        exact ⟨headPasses, tailPasses⟩
      · rintro ⟨headPasses, tailPasses⟩
        exact ⟨_, headPasses, tailPasses⟩

/-- A computation on every element of a list, where each returns a known value
under a known condition, returns all these values under all these conditions. -/
theorem mapM_eq_ok_iff
    {compute : Value -> Except Error Result}
    {Condition : Value -> Prop}
    {outcome : Value -> Result}
    (returns : forall value result,
      compute value = .ok result ↔ Condition value ∧ result = outcome value)
    {values : List Value}
    {results : List Result} :
    values.mapM compute = .ok results ↔
      (forall value, value ∈ values -> Condition value) ∧ results = values.map outcome := by
  induction values generalizing results with
  | nil => simp [pure, Except.pure, eq_comm]
  | cons head tail inductionHypothesis =>
      simp only [List.mapM_cons, bind_eq_ok_iff, returns, inductionHypothesis,
        List.forall_mem_cons, List.map_cons]
      constructor
      · rintro ⟨_, ⟨headHolds, rfl⟩, _, ⟨tailHolds, rfl⟩, returned⟩
        injection returned with same
        exact ⟨⟨headHolds, tailHolds⟩, same.symm⟩
      · rintro ⟨⟨headHolds, tailHolds⟩, rfl⟩
        exact ⟨_, ⟨headHolds, rfl⟩, _, ⟨tailHolds, rfl⟩, rfl⟩

/-- A computation on every element of a list returns exactly when it returns on each of
them. -/
theorem mapM_returns_iff
    {compute : Value -> Except Error Result}
    {values : List Value} :
    (Exists fun results => values.mapM compute = .ok results) ↔
      forall value, value ∈ values -> Exists fun result => compute value = .ok result := by
  induction values with
  | nil => exact ⟨fun _ => List.forall_mem_nil _, fun _ => ⟨[], rfl⟩⟩
  | cons value values inductionHypothesis =>
      rw [List.forall_mem_cons, ← inductionHypothesis]
      simp only [List.mapM_cons, bind_eq_ok_iff]
      constructor
      · rintro ⟨_, first, isFirst, rest, isRest, _⟩
        exact ⟨⟨first, isFirst⟩, rest, isRest⟩
      · rintro ⟨⟨first, isFirst⟩, rest, isRest⟩
        exact ⟨first :: rest, first, isFirst, rest, isRest, rfl⟩

/-- A computation that returns on each element of a list, with a result that is related to
it, returns related results on the list. -/
theorem mapM_related
    {compute : Value -> Except Error Result}
    {Related : Value -> Result -> Prop}
    {values : List Value}
    (returns : forall value, value ∈ values -> Exists fun result =>
      compute value = .ok result ∧ Related value result) :
    Exists fun results => values.mapM compute = .ok results ∧
      List.Forall₂ Related values results := by
  induction values with
  | nil => exact ⟨[], rfl, .nil⟩
  | cons value values inductionHypothesis =>
      obtain ⟨first, isFirst, firstRelated⟩ := returns value List.mem_cons_self
      obtain ⟨rest, isRest, restRelated⟩ :=
        inductionHypothesis fun other member => returns other (List.mem_cons_of_mem _ member)
      refine ⟨first :: rest, ?_, .cons firstRelated restRelated⟩
      rw [List.mapM_cons, isFirst, ok_bind, isRest]
      rfl

theorem mapM_concat_ok
    {compute : Value -> Except Error Result}
    {values : List Value}
    {results : List Result}
    {value : Value}
    {result : Result}
    (returned : values.mapM compute = .ok results)
    (returns : compute value = .ok result) :
    (values ++ [value]).mapM compute = .ok (results ++ [result]) := by
  rw [List.mapM_append, returned, List.mapM_cons, returns]
  rfl

/-- The first error of a computation on a list ends it. -/
theorem mapM_append_error
    {compute : Value -> Except Error Result}
    {values rest : List Value}
    {results : List Result}
    {value : Value}
    {problem : Error}
    (returned : values.mapM compute = .ok results)
    (fails : compute value = .error problem) :
    (values ++ value :: rest).mapM compute = .error problem := by
  rw [List.mapM_append, returned, List.mapM_cons, fails]
  rfl

/-- What holds of every value that a computation returns holds of all values that it
returns on a list. -/
theorem forall_mem_of_mapM_eq_ok
    {compute : Value -> Except Error Result}
    {Holds : Result -> Prop}
    (returns : forall value result, compute value = .ok result -> Holds result)
    {values : List Value}
    {results : List Result}
    (computed : values.mapM compute = .ok results) :
    forall result, result ∈ results -> Holds result := by
  induction values generalizing results with
  | nil =>
      rw [show results = [] from (Except.ok.inj computed).symm]
      exact fun result none => absurd none List.not_mem_nil
  | cons head tail inductionHypothesis =>
      simp only [List.mapM_cons, bind_eq_ok_iff] at computed
      obtain ⟨first, isFirst, rest, isRest, returned⟩ := computed
      rw [← Except.ok.inj returned]
      exact List.forall_mem_cons.mpr ⟨returns head first isFirst, inductionHypothesis isRest⟩

/-- Where each value that a computation returns is told by its element, so are all values
that it returns on a list. -/
theorem eq_filterMap_of_mapM_eq_ok
    {compute : Value -> Except Error Result}
    {outcome : Value -> Option Result}
    (returns : forall value result, compute value = .ok result -> outcome value = some result)
    {values : List Value}
    {results : List Result}
    (computed : values.mapM compute = .ok results) :
    results = values.filterMap outcome := by
  induction values generalizing results with
  | nil => exact (Except.ok.inj computed).symm
  | cons head tail inductionHypothesis =>
      simp only [List.mapM_cons, bind_eq_ok_iff] at computed
      obtain ⟨first, isFirst, rest, isRest, returned⟩ := computed
      rw [← Except.ok.inj returned, List.filterMap_cons, returns head first isFirst,
        inductionHypothesis isRest]

/-- The invariant rule of a fold that may fail: what every step preserves holds at the end.
The invariant may look at the values before. -/
theorem foldlM_preserves
    {State : Type}
    {step : State -> Value -> Except Error State}
    (invariant : List Value -> State -> Prop)
    (preserves : forall before state value next,
      invariant before state -> step state value = .ok next ->
        invariant (before ++ [value]) next)
    {values : List Value}
    {state final : State}
    (before : List Value)
    (start : invariant before state)
    (folded : values.foldlM step state = .ok final) :
    invariant (before ++ values) final := by
  induction values generalizing before state with
  | nil =>
      rw [List.append_nil, ← Except.ok.inj folded]
      exact start
  | cons value values inductionHypothesis =>
      obtain ⟨next, stepped, rest⟩ := bind_eq_ok_iff.mp folded
      have later := inductionHypothesis (before ++ [value])
        (preserves _ _ _ _ start stepped) rest
      rw [← List.append_cons] at later
      exact later

end Fallible
end Library
end LakehouseOps
