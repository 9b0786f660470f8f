import Mathlib.Data.List.Basic

/-! Finite executions of a labelled transition system, and the rule that lifts
a property kept by every guarded step to every guarded execution. -/

set_option autoImplicit false

namespace Ros2Graph.Foundation

/-- A finite run: the visited states with the label taken from each, oldest
first, and the state reached. -/
inductive Execution {State Label : Type} (initial : State → Prop)
    (step : State → Label → State → Prop) : List (State × Label) → State → Prop where
  | start {state : State} : initial state → Execution initial step [] state
  | extend {past : List (State × Label)} {state next : State} {label : Label} :
      Execution initial step past state → step state label next →
      Execution initial step (past ++ [(state, label)]) next

namespace Execution

variable {State Label : Type} {initial : State → Prop}
  {step : State → Label → State → Prop}

def Guarded (guard : State → Label → Prop) (past : List (State × Label)) : Prop :=
  ∀ visit ∈ past, guard visit.1 visit.2

theorem Guarded.init {guard : State → Label → Prop} {past : List (State × Label)}
    {state : State} {label : Label} (guarded : Guarded guard (past ++ [(state, label)])) :
    Guarded guard past :=
  fun visit member => guarded visit (List.mem_append_left _ member)

theorem Guarded.last {guard : State → Label → Prop} {past : List (State × Label)}
    {state : State} {label : Label} (guarded : Guarded guard (past ++ [(state, label)])) :
    guard state label :=
  guarded (state, label) (by simp)

/-- The guarded invariance rule. -/
theorem invariant {guard : State → Label → Prop} {holds : State → Prop}
    (starts : ∀ state, initial state → holds state)
    (preserved : ∀ state label next, holds state → guard state label →
      step state label next → holds next)
    {past : List (State × Label)} {state : State}
    (run : Execution initial step past state) (guarded : Guarded guard past) :
    holds state := by
  induction run with
  | start started => exact starts _ started
  | extend _ stepped ih => exact preserved _ _ _ (ih guarded.init) guarded.last stepped

theorem always {holds : State → Prop}
    (starts : ∀ state, initial state → holds state)
    (preserved : ∀ state label next, holds state → step state label next → holds next)
    {past : List (State × Label)} {state : State}
    (run : Execution initial step past state) : holds state :=
  invariant starts (fun state label next held (_ : True) => preserved state label next held)
    run (fun _ _ => trivial)

/-- A run onwards from the state that another one has reached. -/
theorem append {past later : List (State × Label)} {middle state : State}
    (run : Execution initial step past middle)
    (onward : Execution (fun first => first = middle) step later state) :
    Execution initial step (past ++ later) state := by
  induction onward with
  | start same => simpa [same] using run
  | extend _ stepped ih => simpa [List.append_assoc] using ih.extend stepped

theorem cons {past : List (State × Label)} {first next state : State} {label : Label}
    (stepped : step first label next)
    (onward : Execution (fun start => start = next) step past state) :
    Execution (fun start => start = first) step ((first, label) :: past) state := by
  have begins : Execution (fun start => start = first) step [] first := .start rfl
  exact (begins.extend stepped).append onward

/-- A run through a visit is a run up to it, its step, and a run onwards. -/
theorem split {front rest : List (State × Label)} {visit : State × Label} {state : State}
    (run : Execution initial step (front ++ visit :: rest) state) :
    Execution initial step front visit.1 ∧ ∃ next, step visit.1 visit.2 next ∧
      Execution (fun first => first = next) step rest state := by
  generalize whole : front ++ visit :: rest = past at run
  induction run generalizing rest with
  | start => simp at whole
  | @extend past current next label run stepped ih =>
      rcases List.eq_nil_or_concat rest with rfl | ⟨others, last, rfl⟩
      · obtain ⟨rfl, same⟩ := List.append_inj' whole rfl
        cases same
        exact ⟨run, next, stepped, .start rfl⟩
      · rw [List.concat_eq_append, ← List.cons_append, ← List.append_assoc] at whole
        obtain ⟨earlier, same⟩ := List.append_inj' whole rfl
        cases same
        obtain ⟨before, middle, first, onward⟩ := ih earlier
        refine ⟨before, middle, first, ?_⟩
        rw [List.concat_eq_append]
        exact onward.extend stepped

end Execution

end Ros2Graph.Foundation
