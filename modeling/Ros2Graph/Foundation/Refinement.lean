import Mathlib.Data.List.Forall2
import Ros2Graph.Foundation.Execution

/-! Forward simulation: the runs of one transition system are those of another that says
less, or says it differently. -/

set_option autoImplicit false

namespace Ros2Graph.Foundation.Execution

/-- All states of a run, the one reached included. -/
def states {State Label : Type} (past : List (State × Label)) (state : State) : List State :=
  past.map (·.1) ++ [state]

theorem weaken {State Label : Type} {initial weaker : State → Prop}
    {step : State → Label → State → Prop} (weakens : ∀ state, initial state → weaker state)
    {past : List (State × Label)} {state : State} (run : Execution initial step past state) :
    Execution weaker step past state := by
  induction run with
  | start started => exact .start (weakens _ started)
  | extend _ stepped ih => exact ih.extend stepped

/-- A run starts in one state. -/
theorem begins {State Label : Type} {initial : State → Prop}
    {step : State → Label → State → Prop} {past : List (State × Label)} {state : State}
    (run : Execution initial step past state) :
    ∃ start, initial start ∧ Execution (fun state => state = start) step past state := by
  induction run with
  | @start state started => exact ⟨state, started, .start rfl⟩
  | extend _ stepped ih =>
      obtain ⟨start, started, earlier⟩ := ih
      exact ⟨start, started, earlier.extend stepped⟩

theorem states_getElem? {State Label : Type} {past : List (State × Label)}
    {visit : State × Label} (state : State) {index : Nat} (found : past[index]? = some visit) :
    (states past state)[index]? = some visit.1 := by
  obtain ⟨inside, _⟩ := List.getElem?_eq_some_iff.mp found
  rw [states, List.getElem?_append_left (by simpa using inside), List.getElem?_map, found]
  rfl

theorem forall₂_getElem? {One Other : Type} {related : One → Other → Prop} {ones : List One}
    {others : List Other} (pairs : List.Forall₂ related ones others) {index : Nat} {one : One}
    (found : ones[index]? = some one) : ∃ other, others[index]? = some other ∧ related one other := by
  induction pairs generalizing index with
  | nil => cases found
  | cons holds _ ih =>
      cases index with
      | zero =>
          cases found
          exact ⟨_, rfl, holds⟩
      | succ index => exact ih found

section

variable {State Label Image Shown : Type} {initial : State → Prop}
  {step : State → Label → State → Prop} {first : Image → Prop}
  {imageStep : Image → Shown → Image → Prop} {related : State → Image → Prop}
  {shown : State → Label → Shown}

/-- Every state of one run is related to the state of the other at the same position, and
every step of it shows the label of the other there. -/
structure Simulated (related : State → Image → Prop) (shown : State → Label → Shown)
    (past : List (State × Label)) (state : State) (trace : List (Image × Shown))
    (image : Image) : Prop where
  visits : List.Forall₂ (fun visit seen => related visit.1 seen.1 ∧
    seen.2 = shown visit.1 visit.2) past trace
  last : related state image

theorem simulated (starts : ∀ state, initial state → ∃ image, first image ∧ related state image)
    (steps : ∀ {past state label next image}, Execution initial step past state →
      step state label next → related state image →
      ∃ following, imageStep image (shown state label) following ∧ related next following)
    {past : List (State × Label)} {state : State} (run : Execution initial step past state) :
    ∃ trace image, Execution first imageStep trace image ∧
      Simulated related shown past state trace image := by
  induction run with
  | start started =>
      obtain ⟨image, begun, holds⟩ := starts _ started
      exact ⟨[], image, .start begun, .nil, holds⟩
  | extend run stepped ih =>
      obtain ⟨trace, image, reached, simulates⟩ := ih
      obtain ⟨following, onwards, holds⟩ := steps run stepped simulates.last
      exact ⟨_, following, reached.extend onwards,
        List.rel_append simulates.visits (.cons ⟨simulates.last, rfl⟩ .nil), holds⟩

theorem Simulated.labels {past : List (State × Label)} {state : State}
    {trace : List (Image × Shown)} {image : Image}
    (simulates : Simulated related shown past state trace image) :
    trace.map (·.2) = past.map fun visit => shown visit.1 visit.2 := by
  rw [← List.forall₂_eq_eq_eq, List.forall₂_map_left_iff, List.forall₂_map_right_iff]
  exact (simulates.visits.imp fun _ _ visit => visit.2).flip

theorem Simulated.states {past : List (State × Label)} {state : State}
    {trace : List (Image × Shown)} {image : Image}
    (simulates : Simulated related shown past state trace image) :
    List.Forall₂ related (states past state) (states trace image) := by
  refine List.rel_append ?_ (.cons simulates.last .nil)
  rw [List.forall₂_map_left_iff, List.forall₂_map_right_iff]
  exact simulates.visits.imp fun _ _ visit => visit.1

end

end Ros2Graph.Foundation.Execution
