import Mathlib.Data.List.Basic

/-! Loops over a list whose body may leave the loop early. The state reached is
returned in either case, with `true` when the list was exhausted. -/

set_option autoImplicit false

namespace Ros2Graph.Foundation

variable {State Item : Type}

def runLoop (body : State → Item → Bool × State) : State → List Item → Bool × State
  | state, [] => (true, state)
  | state, item :: rest =>
      match body state item with
      | (true, next) => runLoop body next rest
      | (false, next) => (false, next)

/-- The number of iterations that start at a state and an item of the given kind. -/
def loopCount (body : State → Item → Bool × State) (kind : State → Item → Bool) :
    State → List Item → Nat
  | _, [] => 0
  | state, item :: rest =>
      (if kind state item then 1 else 0) +
        match body state item with
        | (true, next) => loopCount body kind next rest
        | (false, _) => 0

theorem runLoop_append (body : State → Item → Bool × State) (state : State)
    (front rest : List Item) :
    runLoop body state (front ++ rest) =
      match runLoop body state front with
      | (true, next) => runLoop body next rest
      | (false, next) => (false, next) := by
  induction front generalizing state with
  | nil => rfl
  | cons item front ih =>
      simp only [List.cons_append, runLoop]
      cases result : body state item with
      | mk continues next =>
          cases continues with
          | true => exact ih next
          | false => rfl

/-- Nested loops are one loop over the concatenated batches, when each inner
loop is entered with the state of the outer one. -/
theorem runLoop_nested {Batch : Type} (body : State → Item → Bool × State)
    (outer : State → Batch → Bool × State) (items : Batch → List Item)
    (inner : ∀ state batch, outer state batch = runLoop body state (items batch))
    (state : State) (batches : List Batch) :
    runLoop outer state batches = runLoop body state (batches.flatMap items) := by
  induction batches generalizing state with
  | nil => rfl
  | cons batch rest ih =>
      simp only [runLoop, inner, List.flatMap_cons, runLoop_append]
      cases result : runLoop body state (items batch) with
      | mk continues next =>
          cases continues with
          | true => exact ih next
          | false => rfl

theorem runLoop_map {Source : Type} (body : State → Item → Bool × State)
    (convert : Source → Item) (state : State) (sources : List Source) :
    runLoop body state (sources.map convert) =
      runLoop (fun state source => body state (convert source)) state sources := by
  induction sources generalizing state with
  | nil => rfl
  | cons source rest ih =>
      simp only [List.map_cons, runLoop]
      cases result : body state (convert source) with
      | mk continues next =>
          cases continues with
          | true => exact ih next
          | false => rfl

/-- A loop over converted states, when one iteration converts with them. -/
theorem runLoop_transport {Other : Type} {body : State → Item → Bool × State}
    {other : Other → Item → Bool × Other} {transport : State → Other}
    (commutes : ∀ state item, other (transport state) item = (body state item).map id transport)
    (state : State) (items : List Item) :
    runLoop other (transport state) items = (runLoop body state items).map id transport := by
  induction items generalizing state with
  | nil => rfl
  | cons item rest ih =>
      simp only [runLoop, commutes]
      cases result : body state item with
      | mk continues next =>
          cases continues with
          | true => exact ih next
          | false => rfl

end Ros2Graph.Foundation
