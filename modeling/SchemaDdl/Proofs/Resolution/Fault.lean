import Mathlib.Data.List.Forall2
import SchemaDdl.Error

/-!
# Faults of computations that can fail

A computation in steps fails with the fault of its first failing step, and a traversal of a list
with the fault of the first element that has one.
-/

namespace SchemaDdl

variable {ε α β γ : Type}

def fault? : Except ε α → Option ε
  | .ok _ => none
  | .error fault => some fault

@[simp]
theorem fault?_ok (value : α) : fault? (.ok value : Except ε α) = none := rfl

@[simp]
theorem fault?_error (fault : ε) : fault? (.error fault : Except ε α) = some fault := rfl

theorem fault?_eq_none_iff {result : Except ε α} :
    fault? result = none ↔ ∃ value, result = .ok value := by
  cases result <;> simp

theorem fault?_eq_some_iff {result : Except ε α} {fault : ε} :
    fault? result = some fault ↔ result = .error fault := by
  cases result <;> simp

/-- A step that succeeds leaves the faults of the next one, and one that fails hides them. -/
theorem fault?_bind (result : Except ε α) (next : α → Except ε β) :
    fault? (result >>= next) =
      match result with
      | .ok value => fault? (next value)
      | .error fault => some fault := by
  cases result <;> rfl

/-- A check before a computation hides the faults of the computation where it does not pass. -/
theorem fault?_check_bind (passes : Bool) (value : α) (fault : ε) (next : α → Except ε β) :
    fault? ((if passes then .ok value else .error fault) >>= next) =
      (if passes then none else some fault).or (fault? (next value)) := by
  cases passes <;> rfl

theorem fault?_mapM (f : α → Except ε β) (values : List α) :
    fault? (values.mapM f) = values.findSome? fun value => fault? (f value) := by
  induction values with
  | nil => rfl
  | cons value values induction =>
      rw [List.mapM_cons, fault?_bind, List.findSome?_cons]
      cases f value with
      | error fault => rfl
      | ok result =>
          rw [← induction]
          cases values.mapM f <;> rfl

theorem bind_eq_ok_iff {result : Except ε α} {next : α → Except ε β} {made : β} :
    result >>= next = .ok made ↔ ∃ value, result = .ok value ∧ next value = .ok made := by
  cases result with
  | ok value => simp [bind, Except.bind]
  | error fault => simp [bind, Except.bind]

theorem bind_eq_error_iff {result : Except ε α} {next : α → Except ε β} {fault : ε} :
    result >>= next = .error fault ↔
      result = .error fault ∨ ∃ value, result = .ok value ∧ next value = .error fault := by
  cases result with
  | ok value => simp [bind, Except.bind]
  | error fault => simp [bind, Except.bind]

/-- A computation whose result is only put into something else fails as it does alone. -/
theorem bind_pure_eq_error_iff {result : Except ε α} {f : α → β} {fault : ε} :
    (result >>= fun value => pure (f value)) = .error fault ↔ result = .error fault := by
  cases result with
  | ok value => simp [bind, Except.bind, pure, Except.pure]
  | error fault => simp [bind, Except.bind]

@[simp]
theorem pure_eq_ok_iff {value made : α} : (pure value : Except ε α) = .ok made ↔ value = made := by
  simp [pure, Except.pure]

theorem exists_of_map_eq_ok {f : α → β} {result : Except ε α} {made : β}
    (mapped : result.map f = .ok made) : ∃ value, result = .ok value ∧ f value = made := by
  cases result with
  | ok value => exact ⟨value, rfl, Except.ok.inj mapped⟩
  | error fault => exact absurd mapped (by simp [Except.map])

theorem mapM_eq_ok_iff {f : α → Except ε β} {values : List α} {results : List β} :
    values.mapM f = .ok results ↔
      List.Forall₂ (fun value result => f value = .ok result) values results := by
  induction values generalizing results with
  | nil => cases results <;> simp
  | cons value values induction =>
      simp only [List.mapM_cons, bind_eq_ok_iff, induction, pure_eq_ok_iff]
      constructor
      · rintro ⟨result, first, others, rest, rfl⟩
        exact .cons first rest
      · rintro (_ | ⟨first, rest⟩)
        exact ⟨_, first, _, rest, rfl⟩

/-- A step that succeeds for each of a list's values has one list of results. -/
theorem eq_of_forall₂_ok {f : α → Except ε β} {values : List α} {results others : List β}
    (made : List.Forall₂ (fun value result => f value = .ok result) values results)
    (othersMade : List.Forall₂ (fun value result => f value = .ok result) values others) :
    results = others := by
  rw [← mapM_eq_ok_iff] at made othersMade
  rw [made, Except.ok.injEq] at othersMade
  exact othersMade

theorem exists_mapM_eq_ok_iff {f : α → Except ε β} {values : List α} :
    (∃ results, values.mapM f = .ok results) ↔
      ∀ value ∈ values, ∃ result, f value = .ok result := by
  induction values with
  | nil => exact ⟨fun _ => by simp, fun _ => ⟨[], rfl⟩⟩
  | cons value values induction =>
      rw [List.forall_mem_cons, ← induction]
      constructor
      · rintro ⟨results, traversed⟩
        cases mapM_eq_ok_iff.mp traversed with
        | cons first rest => exact ⟨⟨_, first⟩, _, mapM_eq_ok_iff.mpr rest⟩
      · rintro ⟨⟨result, first⟩, results, rest⟩
        exact ⟨result :: results,
          mapM_eq_ok_iff.mpr (.cons first (mapM_eq_ok_iff.mp rest))⟩

/-- Traversals of two lists agree when their steps agree at each position. -/
theorem mapM_congr_of_forall₂ {f : α → Except ε γ} {g : β → Except ε γ} {values : List α}
    {others : List β} (agree : List.Forall₂ (fun value other => f value = g other) values others) :
    values.mapM f = others.mapM g := by
  induction agree with
  | nil => rfl
  | cons first rest induction => rw [List.mapM_cons, List.mapM_cons, first, induction]

theorem exists_of_mem_mapM {f : α → Except ε β} {values : List α} {results : List β}
    (traversed : values.mapM f = .ok results) {result : β} (member : result ∈ results) :
    ∃ value ∈ values, f value = .ok result := by
  have pointwise := mapM_eq_ok_iff.mp traversed
  induction pointwise with
  | nil => simp at member
  | cons first rest induction =>
      rcases List.mem_cons.mp member with rfl | member
      · exact ⟨_, by simp, first⟩
      · obtain ⟨value, isValue, resolved⟩ := induction (mapM_eq_ok_iff.mpr rest) member
        exact ⟨value, List.mem_cons_of_mem _ isValue, resolved⟩

/-- What the steps of a traversal make has the features of what they were given. -/
theorem map_eq_of_mapM {f : α → Except ε β} {made : β → γ} {given : α → γ} {values : List α}
    {results : List β} (traversed : values.mapM f = .ok results)
    (step : ∀ value result, f value = .ok result → made result = given value) :
    results.map made = values.map given := by
  have pointwise := mapM_eq_ok_iff.mp traversed
  clear traversed
  induction pointwise with
  | nil => rfl
  | cons first rest induction => rw [List.map_cons, List.map_cons, step _ _ first, induction]

end SchemaDdl
