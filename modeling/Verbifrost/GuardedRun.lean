import Mathlib.Tactic.Common

/-!
# Runs of a transition function whose steps meet a guard

`step` returns `none` for an action that is not enabled. A guard is a
condition on an action and the state it is taken in; `Meets` says that every
action of a run meets it. The induction over runs is done here once: an
invariant that each guarded step preserves holds wherever a guarded run ends.
-/

namespace Verbifrost.GuardedRun

set_option autoImplicit false

variable {State Action : Type*} (step : State → Action → Option State)

def run : State → List Action → Option State
  | state, [] => some state
  | state, action :: rest => (step state action).bind fun next => run next rest

def Meets (guard : State → Action → Prop) : State → List Action → Prop
  | _, [] => True
  | state, action :: rest =>
      guard state action ∧ ∀ next, step state action = some next → Meets guard next rest

def Always (property : State → Prop) : State → List Action → Prop
  | state, [] => property state
  | state, action :: rest =>
      property state ∧ ∀ next, step state action = some next → Always property next rest

theorem run_cons {state final : State} {action : Action} {rest : List Action}
    (ran : run step state (action :: rest) = some final) :
    ∃ next, step state action = some next ∧ run step next rest = some final :=
  Option.bind_eq_some_iff.mp ran

theorem run_append (state : State) (first second : List Action) :
    run step state (first ++ second) =
      (run step state first).bind fun middle => run step middle second := by
  induction first generalizing state with
  | nil => rfl
  | cons action rest induction =>
      simp only [List.cons_append, run]
      cases step state action with
      | none => rfl
      | some next => exact induction next

variable {step}

theorem run_trans {state middle final : State} {first second : List Action}
    (before : run step state first = some middle) (after : run step middle second = some final) :
    run step state (first ++ second) = some final := by
  rw [run_append, before]
  exact after

theorem meets_cons {guard : State → Action → Prop} {state next : State} {action : Action}
    {rest : List Action} (stepped : step state action = some next) (first : guard state action)
    (after : Meets step guard next rest) : Meets step guard state (action :: rest) := by
  refine ⟨first, ?_⟩
  intro other reached
  rw [stepped] at reached
  cases reached
  exact after

theorem meets_append {guard : State → Action → Prop} {state middle : State}
    {first second : List Action} (ran : run step state first = some middle)
    (before : Meets step guard state first) (after : Meets step guard middle second) :
    Meets step guard state (first ++ second) := by
  induction first generalizing state with
  | nil =>
      cases ran
      exact after
  | cons action rest induction =>
      obtain ⟨next, stepped, rested⟩ := run_cons step ran
      exact meets_cons stepped before.1 (induction rested (before.2 next stepped))

theorem meets_suffix {guard : State → Action → Prop} {state middle : State}
    {first second : List Action} (ran : run step state first = some middle)
    (met : Meets step guard state (first ++ second)) : Meets step guard middle second := by
  induction first generalizing state with
  | nil =>
      cases ran
      exact met
  | cons action rest induction =>
      obtain ⟨next, stepped, rested⟩ := run_cons step ran
      exact induction rested (met.2 next stepped)

theorem meets_and {left right : State → Action → Prop} {state : State} {actions : List Action}
    (first : Meets step left state actions) (second : Meets step right state actions) :
    Meets step (fun before action => left before action ∧ right before action) state actions := by
  induction actions generalizing state with
  | nil => trivial
  | cons action rest induction =>
      refine ⟨⟨first.1, second.1⟩, ?_⟩
      intro next stepped
      exact induction (first.2 next stepped) (second.2 next stepped)

/-- Two guards that agree wherever the invariant holds are met by the same runs. -/
theorem meets_iff_meets {left right : State → Action → Prop} {invariant : State → Prop}
    (agree : ∀ state action, invariant state → (left state action ↔ right state action))
    (preserved : ∀ state action next, invariant state → right state action →
      step state action = some next → invariant next)
    {state : State} (actions : List Action) (initial : invariant state) :
    Meets step left state actions ↔ Meets step right state actions := by
  induction actions generalizing state with
  | nil => exact Iff.rfl
  | cons action rest induction =>
      have first := agree state action initial
      constructor
      · rintro ⟨met, later⟩
        refine ⟨first.mp met, ?_⟩
        intro next stepped
        exact (induction (preserved state action next initial (first.mp met) stepped)).mp
          (later next stepped)
      · rintro ⟨met, later⟩
        refine ⟨first.mpr met, ?_⟩
        intro next stepped
        exact (induction (preserved state action next initial met stepped)).mpr (later next stepped)

theorem meets_of_forall {guard : State → Action → Prop} {actions : List Action}
    (always : ∀ action ∈ actions, ∀ state, guard state action) (state : State) :
    Meets step guard state actions := by
  induction actions generalizing state with
  | nil => trivial
  | cons action rest induction =>
      refine ⟨always action (by simp) state, ?_⟩
      intro next _
      exact induction (by intro other member; exact always other (by simp [member])) next

/-- The invariant rule: what every guarded step preserves, a guarded run preserves. -/
theorem run_invariant {guard : State → Action → Prop} {invariant : State → Prop}
    (preserved : ∀ state action next, invariant state → guard state action →
      step state action = some next → invariant next)
    {state final : State} {actions : List Action} (initial : invariant state)
    (guarded : Meets step guard state actions) (ran : run step state actions = some final) :
    invariant final := by
  induction actions generalizing state with
  | nil =>
      cases ran
      exact initial
  | cons action rest induction =>
      obtain ⟨next, stepped, rested⟩ := run_cons step ran
      exact induction (preserved state action next initial guarded.1 stepped)
        (guarded.2 next stepped) rested

theorem always_of_invariant {invariant property : State → Prop}
    (holds : ∀ state, invariant state → property state)
    (preserved : ∀ state action next, invariant state → step state action = some next →
      invariant next)
    {state : State} (initial : invariant state) (actions : List Action) :
    Always step property state actions := by
  induction actions generalizing state with
  | nil => exact holds state initial
  | cons action rest induction =>
      refine ⟨holds state initial, ?_⟩
      intro next stepped
      exact induction (preserved state action next initial stepped)

/-- When a step outside the guard always breaks the property, a run keeps the
property throughout exactly when all its steps meet the guard. -/
theorem always_iff_meets {guard : State → Action → Prop} {invariant property : State → Prop}
    (holds : ∀ state, invariant state → property state)
    (preserved : ∀ state action next, invariant state → guard state action →
      step state action = some next → invariant next)
    (broken : ∀ state action next, invariant state → ¬guard state action →
      step state action = some next → ¬property next)
    {state final : State} {actions : List Action} (initial : invariant state)
    (ran : run step state actions = some final) :
    Always step property state actions ↔ Meets step guard state actions := by
  induction actions generalizing state with
  | nil => exact ⟨fun _ => trivial, fun _ => holds state initial⟩
  | cons action rest induction =>
      obtain ⟨next, stepped, rested⟩ := run_cons step ran
      constructor
      · rintro ⟨_, later⟩
        have after := later next stepped
        have first : guard state action := by
          by_contra unguarded
          apply broken state action next initial unguarded stepped
          cases rest with
          | nil => exact after
          | cons other rest => exact after.1
        exact meets_cons stepped first
          ((induction (preserved state action next initial first stepped) rested).mp after)
      · rintro ⟨first, later⟩
        refine ⟨holds state initial, ?_⟩
        intro reached again
        rw [stepped] at again
        cases again
        exact (induction (preserved state action next initial first stepped) rested).mpr
          (later next stepped)

end Verbifrost.GuardedRun
