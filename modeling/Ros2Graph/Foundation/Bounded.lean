import Mathlib.Order.WellFounded
import Ros2Graph.Foundation.Execution

/-! Executions that come to an end. Where every guarded step lowers a rank, no guarded
execution goes on for ever, and one that cannot be continued exists. Where every guarded
step takes from a measure what its label does not give back, a guarded execution is no
longer than the measure and what its labels give. -/

set_option autoImplicit false

namespace Ros2Graph.Foundation.Execution

variable {State Label : Type} {step : State → Label → State → Prop}

/-- An execution from a state. -/
abbrev From (step : State → Label → State → Prop) (start : State) :
    List (State × Label) → State → Prop :=
  Execution (fun first => first = start) step

/-- No step that the guard admits can be taken. -/
def Stuck (step : State → Label → State → Prop) (guard : State → Label → Prop)
    (state : State) : Prop :=
  ∀ label next, guard state label → ¬ step state label next

/-- Every guarded step lowers the rank. -/
structure Descends {Rank : Type} (lower : Rank → Rank → Prop)
    (step : State → Label → State → Prop) (guard : State → Label → Prop) (holds : State → Prop)
    (rank : State → Rank) : Prop where
  kept : ∀ state label next, holds state → guard state label → step state label next → holds next
  falls : ∀ state label next, holds state → guard state label → step state label next →
    lower (rank next) (rank state)

section

variable {Rank : Type} {lower : Rank → Rank → Prop} {guard : State → Label → Prop}
  {holds : State → Prop} {rank : State → Rank} {start : State}

theorem Descends.no_infinite (descends : Descends lower step guard holds rank)
    (wellFounded : WellFounded lower) {states : ℕ → State} {labels : ℕ → Label}
    (held : holds (states 0)) :
    ¬ ∀ n, guard (states n) (labels n) ∧ step (states n) (labels n) (states (n + 1)) := by
  intro endless
  have always : ∀ n, holds (states n) := by
    intro n
    induction n with
    | zero => exact held
    | succ n ih => exact descends.kept _ _ _ ih (endless n).1 (endless n).2
  have : IsWellFounded Rank lower := ⟨wellFounded⟩
  have stays : ∃ n, ¬ lower (rank (states (n + 1))) (rank (states n)) :=
    WellFounded.not_rel_apply_succ fun n => rank (states n)
  obtain ⟨n, stays⟩ := stays
  exact stays (descends.falls _ _ _ (always n) (endless n).1 (endless n).2)

theorem Descends.exists_stuck (descends : Descends lower step guard holds rank)
    (wellFounded : WellFounded lower) (held : holds start) :
    ∃ visits last, From step start visits last ∧ Guarded guard visits ∧
      Stuck step guard last := by
  induction remaining : rank start using wellFounded.induction generalizing start with
  | _ amount ih =>
      by_cases stuck : Stuck step guard start
      · exact ⟨[], start, .start rfl, by simp [Guarded], stuck⟩
      · simp only [Stuck, not_forall, not_not] at stuck
        obtain ⟨label, next, admitted, stepped⟩ := stuck
        obtain ⟨visits, last, run, guarded, done⟩ :=
          ih (rank next) (remaining ▸ descends.falls _ _ _ held admitted stepped)
            (descends.kept _ _ _ held admitted stepped) rfl
        have first : From step start [(start, label)] next :=
          @Execution.extend _ _ _ step [] start next label (.start rfl) stepped
        refine ⟨(start, label) :: visits, last, first.append run, ?_, done⟩
        intro visit member
        rcases List.mem_cons.mp member with rfl | onward
        · exact admitted
        · exact guarded visit onward

end

/-- What the labels of an execution give. -/
def given (gives : Label → Nat) : List (State × Label) → Nat
  | [] => 0
  | visit :: rest => gives visit.2 + given gives rest

@[simp] theorem given_append (gives : Label → Nat) (early late : List (State × Label)) :
    given gives (early ++ late) = given gives early + given gives late := by
  induction early with
  | nil => simp [given]
  | cons visit rest ih => simp [given, ih, Nat.add_assoc]

@[simp] theorem given_nothing (visits : List (State × Label)) :
    given (fun _ => 0) visits = 0 := by
  induction visits with
  | nil => rfl
  | cons visit rest ih => simp [given, ih]

/-- The measure falls by one at each step, up to what the label gives. -/
structure Paid (step : State → Label → State → Prop) (guard : State → Label → Prop)
    (holds : State → Prop) (measure : State → Nat) (gives : Label → Nat) : Prop where
  kept : ∀ state label next, holds state → guard state label → step state label next → holds next
  falls : ∀ state label next, holds state → guard state label → step state label next →
    1 + measure next ≤ measure state + gives label

variable {guard : State → Label → Prop} {holds : State → Prop} {measure : State → Nat}
  {gives : Label → Nat} {start last : State} {visits : List (State × Label)}

theorem Paid.bounded (paid : Paid step guard holds measure gives) (held : holds start)
    (run : From step start visits last) (guarded : Guarded guard visits) :
    holds last ∧ visits.length + measure last ≤ measure start + given gives visits := by
  induction run with
  | start same =>
      subst same
      exact ⟨held, by simp [given]⟩
  | @extend past state next label run stepped ih =>
      obtain ⟨still, bound⟩ := ih guarded.init
      have one := paid.falls _ _ _ still guarded.last stepped
      refine ⟨paid.kept _ _ _ still guarded.last stepped, ?_⟩
      simp only [List.length_append, List.length_singleton, given_append]
      have last : given gives [(state, label)] = gives label := by simp [given]
      omega

/-- A guarded execution to a state where no step is left, when the labels give nothing. -/
theorem Paid.exists_stuck (paid : Paid step guard holds measure fun _ => 0) (held : holds start) :
    ∃ visits last, From step start visits last ∧ Guarded guard visits ∧
      Stuck step guard last := by
  have descends : Descends (· < ·) step guard holds measure :=
    ⟨paid.kept, fun state label next still admitted stepped => by
      have less := paid.falls state label next still admitted stepped
      omega⟩
  exact descends.exists_stuck Nat.lt_wfRel.wf held

/-- What is spent has been given before, and the measure is what is left of it. -/
theorem counted {initial : State → Prop} {spends gives : State → Label → Bool}
    (starts : ∀ state, initial state → measure state = 0)
    (pays : ∀ state label next, step state label next →
      (spends state label).toNat + measure next ≤ measure state + (gives state label).toNat)
    (run : Execution initial step visits last) :
    visits.countP (fun visit => spends visit.1 visit.2) + measure last ≤
      visits.countP fun visit => gives visit.1 visit.2 := by
  induction run with
  | start started => simp [starts _ started]
  | @extend past state next label run stepped ih =>
      have one := pays _ _ _ stepped
      have spent : [(state, label)].countP (fun visit => spends visit.1 visit.2) =
          (spends state label).toNat := by
        cases answer : spends state label <;> simp [answer]
      have given : [(state, label)].countP (fun visit => gives visit.1 visit.2) =
          (gives state label).toNat := by
        cases answer : gives state label <;> simp [answer]
      rw [List.countP_append, List.countP_append, spent, given]
      omega

end Ros2Graph.Foundation.Execution
