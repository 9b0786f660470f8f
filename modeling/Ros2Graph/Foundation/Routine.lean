import Mathlib.Data.List.Basic

/-! Routines that share a memory, statement by statement, and the discipline of one
lock: nothing is loaded or stored but between the signal that takes the lock and
the one that gives it. -/

set_option autoImplicit false

namespace Ros2Graph.Foundation

/-- What is left of a call. A statement loads the memory, stores it, or signals. -/
inductive Routine (Memory Event Result : Type) where
  | done (result : Result)
  | signal (event : Event) (rest : Routine Memory Event Result)
  | load (rest : Memory → Routine Memory Event Result)
  | store (memory : Memory) (rest : Routine Memory Event Result)

/-- What a routine does when nobody interferes. -/
structure Ran (Memory Event Result : Type) where
  memory : Memory
  result : Result
  events : List Event

namespace Routine

variable {Memory Event Result Next : Type}

def bind (routine : Routine Memory Event Result) (next : Result → Routine Memory Event Next) :
    Routine Memory Event Next :=
  match routine with
  | .done result => next result
  | .signal event rest => .signal event (rest.bind next)
  | .load rest => .load fun memory => (rest memory).bind next
  | .store memory rest => .store memory (rest.bind next)

instance : Monad (Routine Memory Event) where
  pure := .done
  bind := .bind

def run (routine : Routine Memory Event Result) (memory : Memory) : Ran Memory Event Result :=
  match routine with
  | .done result => ⟨memory, result, []⟩
  | .signal event rest =>
      let ran := rest.run memory
      { ran with events := event :: ran.events }
  | .load rest => (rest memory).run memory
  | .store memory rest => rest.run memory

@[simp] theorem run_pure (result : Result) (memory : Memory) :
    (pure result : Routine Memory Event Result).run memory = ⟨memory, result, []⟩ := rfl

@[simp] theorem run_bind (routine : Routine Memory Event Result)
    (next : Result → Routine Memory Event Next) (memory : Memory) :
    (routine >>= next).run memory =
      ⟨((next (routine.run memory).result).run (routine.run memory).memory).memory,
        ((next (routine.run memory).result).run (routine.run memory).memory).result,
        (routine.run memory).events ++
          ((next (routine.run memory).result).run (routine.run memory).memory).events⟩ := by
  change (routine.bind next).run memory = _
  induction routine generalizing memory with
  | done result => rfl
  | signal event rest ih => simp only [bind, run, ih, List.cons_append]
  | load rest ih => exact ih memory memory
  | store stored rest ih => exact ih stored

@[simp] theorem run_map (routine : Routine Memory Event Result) (read : Result → Next)
    (memory : Memory) :
    (read <$> routine).run memory =
      ⟨(routine.run memory).memory, read (routine.run memory).result,
        (routine.run memory).events⟩ := by
  have ran := run_bind routine (fun result => .done (read result)) memory
  change (read <$> routine).run memory = _ at ran
  simpa [run] using ran

/-- The next statement: what it signals, what is left, and the memory. -/
def advance (routine : Routine Memory Event Result) (memory : Memory) :
    Option (Option Event × Routine Memory Event Result × Memory) :=
  match routine with
  | .done _ => none
  | .signal event rest => some (some event, rest, memory)
  | .load rest => some (none, rest memory, memory)
  | .store memory rest => some (none, rest, memory)

/-- How many statements are left when nobody interferes. -/
def length (routine : Routine Memory Event Result) (memory : Memory) : Nat :=
  match routine with
  | .done _ => 0
  | .signal _ rest => rest.length memory + 1
  | .load rest => (rest memory).length memory + 1
  | .store memory rest => rest.length memory + 1

section

variable {routine rest : Routine Memory Event Result} {memory later : Memory}
  {event : Option Event}

/-- A statement brings forward nothing and leaves nothing out. -/
theorem run_advance (advanced : routine.advance memory = some (event, rest, later)) :
    routine.run memory =
      ⟨(rest.run later).memory, (rest.run later).result,
        event.toList ++ (rest.run later).events⟩ := by
  cases routine <;> cases advanced <;> rfl

theorem length_advance (advanced : routine.advance memory = some (event, rest, later)) :
    routine.length memory = rest.length later + 1 := by
  cases routine <;> cases advanced <;> rfl

end

/-- A body of its own events under the lock: the lock is given by the last statement. -/
def within {Inner : Type} (embed : Inner → Event) (give : Event)
    (body : Routine Memory Inner Result) : Routine Memory Event Result :=
  match body with
  | .done result => .signal give (.done result)
  | .signal event rest => .signal (embed event) (rest.within embed give)
  | .load rest => .load fun memory => (rest memory).within embed give
  | .store memory rest => .store memory (rest.within embed give)

def locked {Inner : Type} (embed : Inner → Event) (take give : Event)
    (body : Routine Memory Inner Result) : Routine Memory Event Result :=
  .signal take (body.within embed give)

section

variable (take give : Event)

/-- The lock is held. It is given by the last statement. -/
inductive Inside : Routine Memory Event Result → Prop where
  | give {result} : Inside (.signal give (.done result))
  | signal {event rest} : event ≠ take → event ≠ give → Inside rest → Inside (.signal event rest)
  | load {rest} : (∀ memory, Inside (rest memory)) → Inside (.load rest)
  | store {memory rest} : Inside rest → Inside (.store memory rest)

/-- A whole routine: it has its result at once, or takes the lock first. -/
inductive Disciplined : Routine Memory Event Result → Prop where
  | done {result} : Disciplined (.done result)
  | take {rest} : Inside take give rest → Disciplined (.signal take rest)

end

section

variable {Inner : Type} {embed : Inner → Event} {take give : Event}

theorem within_inside (notTake : ∀ event, embed event ≠ take)
    (notGive : ∀ event, embed event ≠ give) (body : Routine Memory Inner Result) :
    Inside take give (body.within embed give) := by
  induction body with
  | done => exact .give
  | signal event _ ih => exact .signal (notTake event) (notGive event) ih
  | load _ ih => exact .load ih
  | store _ _ ih => exact .store ih

theorem locked_disciplined (notTake : ∀ event, embed event ≠ take)
    (notGive : ∀ event, embed event ≠ give) (body : Routine Memory Inner Result) :
    Disciplined take give (locked embed take give body) :=
  .take (within_inside notTake notGive body)

@[simp] theorem run_locked (body : Routine Memory Inner Result) (memory : Memory) :
    (locked embed take give body).run memory =
      ⟨(body.run memory).memory, (body.run memory).result,
        take :: ((body.run memory).events.map embed ++ [give])⟩ := by
  have ran : (body.within embed give).run memory =
      ⟨(body.run memory).memory, (body.run memory).result,
        (body.run memory).events.map embed ++ [give]⟩ := by
    induction body generalizing memory with
    | done => rfl
    | signal event rest ih => simp only [within, run, ih, List.map_cons, List.cons_append]
    | load rest ih => exact ih memory memory
    | store stored rest ih => exact ih stored
  simp only [locked, run, ran]

theorem Disciplined.map {routine : Routine Memory Event Result} (read : Result → Next)
    (disciplined : Disciplined take give routine) :
    Disciplined take give (read <$> routine) := by
  change Disciplined take give (routine.bind fun result => .done (read result))
  cases disciplined with
  | done => exact .done
  | take inside =>
      refine .take ?_
      induction inside with
      | give => exact .give
      | signal notTake notGive _ ih => exact .signal notTake notGive ih
      | load _ ih => exact .load ih
      | store _ ih => exact .store ih

/-- What one statement can do while the lock is held. -/
theorem Inside.advance {routine rest : Routine Memory Event Result} {memory later : Memory}
    {event : Option Event} (inside : Inside take give routine)
    (advanced : routine.advance memory = some (event, rest, later)) :
    (event = some give ∧ later = memory ∧ ∃ result, rest = .done result) ∨
      (event ≠ some take ∧ event ≠ some give ∧ Inside take give rest) := by
  cases inside with
  | give =>
      cases advanced
      exact .inl ⟨rfl, rfl, _, rfl⟩
  | signal notTake notGive onwards =>
      cases advanced
      exact .inr ⟨by simpa using notTake, by simpa using notGive, onwards⟩
  | load onwards =>
      cases advanced
      exact .inr ⟨by simp, by simp, onwards _⟩
  | store onwards =>
      cases advanced
      exact .inr ⟨by simp, by simp, onwards⟩

/-- Who holds the lock has a statement to execute. -/
theorem Inside.canAdvance {routine : Routine Memory Event Result}
    (inside : Inside take give routine) (memory : Memory) :
    ∃ event rest later, routine.advance memory = some (event, rest, later) := by
  cases inside <;> exact ⟨_, _, _, rfl⟩

end

end Routine

end Ros2Graph.Foundation
