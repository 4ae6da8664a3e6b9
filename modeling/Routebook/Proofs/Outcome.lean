/-!
# Outcomes

A computation that may fail has an outcome: its result has one property, or its failure has another.
Outcomes go along with the steps that a computation is made of (`Outcome.bind`, `Outcome.foldlM`),
so what can go wrong in a long computation follows from what can go wrong in each of its steps.
-/

namespace Routebook

set_option autoImplicit false

/-- The result of a computation has a property, or its failure has another one. -/
def Outcome {ε α : Type} (refusal : ε → Prop) (property : α → Prop) : Except ε α → Prop
  | .ok value => property value
  | .error failure => refusal failure

namespace Outcome

variable {ε α β : Type} {refusal : ε → Prop} {property : α → Prop} {goal : β → Prop}

/-- The failure of a computation that fails. -/
def failure? : Except ε α → Option ε
  | .ok _ => none
  | .error failure => some failure

theorem eq_error_of_failure? {result : Except ε α} {failure : ε}
    (found : failure? result = some failure) : result = .error failure := by
  cases result with
  | ok value => cases found
  | error other => exact congrArg Except.error (Option.some.inj found)

theorem of_cases {result : Except ε α} (ok : ∀ value, result = .ok value → property value)
    (error : ∀ failure, result = .error failure → refusal failure) :
    Outcome refusal property result := by
  cases result with
  | ok value => exact ok value rfl
  | error failure => exact error failure rfl

theorem error {result : Except ε α} (outcome : Outcome refusal property result) {failure : ε}
    (failed : result = .error failure) : refusal failure := by
  rw [failed] at outcome
  exact outcome

theorem ok {result : Except ε α} (outcome : Outcome refusal property result) {value : α}
    (succeeded : result = .ok value) : property value := by
  rw [succeeded] at outcome
  exact outcome

theorem mono {result : Except ε α} {more : α → Prop} (outcome : Outcome refusal property result)
    (weaker : ∀ value, property value → more value) : Outcome refusal more result := by
  cases result with
  | ok value => exact weaker value outcome
  | error failure => exact outcome

theorem imp {result : Except ε α} {others : ε → Prop} (outcome : Outcome refusal property result)
    (weaker : ∀ failure, refusal failure → others failure) : Outcome others property result := by
  cases result with
  | ok value => exact outcome
  | error failure => exact weaker failure outcome

theorem ite {condition : Prop} [Decidable condition] {first second : Except ε α}
    (positive : Outcome refusal property first) (negative : Outcome refusal property second) :
    Outcome refusal property (if condition then first else second) := by
  split
  · exact positive
  · exact negative

theorem bind {first : Except ε α} {next : α → Except ε β} (start : Outcome refusal property first)
    (rest : ∀ value, property value → Outcome refusal goal (next value)) :
    Outcome refusal goal (first >>= next) := by
  cases first with
  | ok value => exact rest value start
  | error failure => exact start

theorem exists_of_isOk {result : Except ε α} (succeeds : result.isOk = true) :
    ∃ value, result = .ok value := by
  cases result with
  | ok value => exact ⟨value, rfl⟩
  | error failure => cases succeeds

/-- A computation that succeeds as a whole succeeds in its first part. -/
theorem exists_of_bind {first : Except ε α} {next : α → Except ε β} {result : β}
    (run : first >>= next = .ok result) : ∃ value, first = .ok value ∧ next value = .ok result := by
  cases first with
  | ok value => exact ⟨value, rfl, run⟩
  | error failure => cases run

/-- A changed result is that of a computation that succeeds. -/
theorem exists_of_map {first : Except ε α} {change : α → β} {result : β}
    (run : first.map change = .ok result) : ∃ value, first = .ok value ∧ change value = result := by
  cases first with
  | ok value => exact ⟨value, rfl, Except.ok.inj run⟩
  | error failure => cases run

/-- A result of which only the success is kept. -/
theorem map_eq_ok_unit_iff {result : Except ε α} :
    result.map (fun _ => ()) = .ok () ↔ ∃ value, result = .ok value := by
  constructor
  · intro run
    obtain ⟨value, succeeds, -⟩ := exists_of_map run
    exact ⟨value, succeeds⟩
  · rintro ⟨value, rfl⟩
    rfl

/-- A computation that fails as a whole fails in one of its parts. -/
theorem error_of_bind {first : Except ε α} {next : α → Except ε β} {failure : ε}
    (run : first >>= next = .error failure) :
    first = .error failure ∨ ∃ value, first = .ok value ∧ next value = .error failure := by
  cases first with
  | ok value => exact .inr ⟨value, rfl, run⟩
  | error other =>
      cases run
      exact .inl rfl

theorem map {result : Except ε α} {change : α → β} (outcome : Outcome refusal property result)
    (holds : ∀ value, property value → goal (change value)) :
    Outcome refusal goal (result.map change) := by
  cases result with
  | ok value => exact holds value outcome
  | error failure => exact outcome

/-! ## Lists of steps -/

section Steps

variable {items : List β} {step : β → Except ε α} {results : List α}

/-- Of a list of steps the outcomes are those of the steps. -/
theorem mapM {items : List β} {step : β → Except ε α}
    (steps : ∀ item, Outcome refusal property (step item)) :
    Outcome refusal (fun results => ∀ result ∈ results, property result) (items.mapM step) := by
  induction items with
  | nil => exact nofun
  | cons item items inductionHypothesis =>
      rw [List.mapM_cons]
      refine bind (steps item) fun first holds => bind inductionHypothesis fun rest others => ?_
      intro result present
      rcases List.mem_cons.mp present with rfl | later
      · exact holds
      · exact others result later

/-- Steps that do the same with each item do the same with the list. -/
theorem mapM_congr {other : β → Except ε α} (same : ∀ item ∈ items, step item = other item) :
    items.mapM step = items.mapM other := by
  induction items with
  | nil => rfl
  | cons item items inductionHypothesis =>
      rw [List.forall_mem_cons] at same
      rw [List.mapM_cons, List.mapM_cons, same.1, inductionHypothesis same.2]

/-- Steps that all succeed give the list of their results. -/
theorem mapM_eq_ok {outcome : β → α} (steps : ∀ item ∈ items, step item = .ok (outcome item)) :
    items.mapM step = .ok (items.map outcome) :=
  (mapM_congr steps).trans List.mapM_pure

/-- Steps that give a list succeed one by one. -/
theorem exists_of_mapM_cons {item : β} (run : (item :: items).mapM step = .ok results) :
    ∃ value values, step item = .ok value ∧ items.mapM step = .ok values ∧
      results = value :: values := by
  rw [List.mapM_cons] at run
  obtain ⟨value, here, further⟩ := exists_of_bind run
  obtain ⟨values, later, last⟩ := exists_of_bind further
  exact ⟨value, values, here, later, (Except.ok.inj last).symm⟩

/-- Steps give a list that was foreseen exactly when each of them gives its item. -/
theorem mapM_eq_ok_iff {outcome : β → α} :
    items.mapM step = .ok (items.map outcome) ↔ ∀ item ∈ items, step item = .ok (outcome item) := by
  refine ⟨fun run => ?_, mapM_eq_ok⟩
  induction items with
  | nil => nofun
  | cons item items inductionHypothesis =>
      obtain ⟨value, values, first, later, same⟩ := exists_of_mapM_cons run
      obtain ⟨here, there⟩ := List.cons.inj same
      rw [← there] at later
      rw [List.forall_mem_cons, first, here]
      exact ⟨rfl, inductionHypothesis later⟩

/-- A list of steps succeeds exactly when each of them does. -/
theorem exists_mapM_eq_ok_iff :
    (∃ results, items.mapM step = .ok results) ↔ ∀ item ∈ items, ∃ result, step item = .ok result := by
  induction items with
  | nil => exact iff_of_true ⟨[], rfl⟩ (List.forall_mem_nil _)
  | cons item items inductionHypothesis =>
      rw [List.forall_mem_cons, ← inductionHypothesis]
      constructor
      · rintro ⟨results, run⟩
        obtain ⟨value, values, first, later, -⟩ := exists_of_mapM_cons run
        exact ⟨⟨value, first⟩, values, later⟩
      · rintro ⟨⟨value, first⟩, values, later⟩
        refine ⟨value :: values, ?_⟩
        rw [List.mapM_cons, first, later]
        rfl

/-- Every result of a list of steps is the result of one of them. -/
theorem exists_of_mem_mapM (run : items.mapM step = .ok results) {found : α}
    (present : found ∈ results) : ∃ item ∈ items, step item = .ok found := by
  induction items generalizing results with
  | nil =>
      cases run
      cases present
  | cons item items inductionHypothesis =>
      obtain ⟨value, values, first, later, rfl⟩ := exists_of_mapM_cons run
      rcases List.mem_cons.mp present with rfl | inside
      · exact ⟨item, List.mem_cons_self, first⟩
      · obtain ⟨other, among, made⟩ := inductionHypothesis later inside
        exact ⟨other, List.mem_cons_of_mem _ among, made⟩

/-- A list of steps that fails has the failure of one of them. -/
theorem exists_of_mapM_eq_error {failure : ε} (run : items.mapM step = .error failure) :
    ∃ item ∈ items, step item = .error failure := by
  induction items with
  | nil => cases run
  | cons item items inductionHypothesis =>
      rw [List.mapM_cons] at run
      rcases error_of_bind run with here | ⟨value, -, further⟩
      · exact ⟨item, List.mem_cons_self, here⟩
      · rcases error_of_bind further with later | ⟨values, -, last⟩
        · obtain ⟨other, among, failed⟩ := inductionHypothesis later
          exact ⟨other, List.mem_cons_of_mem _ among, failed⟩
        · cases last

end Steps

/-- A left fold has the property that its start has and every step keeps. -/
theorem foldlM {items : List β} {initial : α} {step : α → β → Except ε α} (start : property initial)
    (keeps : ∀ current item, property current → Outcome refusal property (step current item)) :
    Outcome refusal property (items.foldlM step initial) := by
  induction items generalizing initial with
  | nil => exact start
  | cons item items inductionHypothesis =>
      rw [List.foldlM_cons]
      exact bind (keeps initial item start) fun _ holds => inductionHypothesis holds

end Outcome

end Routebook
