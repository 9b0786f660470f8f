import Ros2Graph.Calls.Simulation

/-! The calls of all callers in one order: the order in which they take `mutex_self`. The
registry is what the calls leave when they are made one after the other in that order,
and each answer is the one that its call has there. -/

set_option autoImplicit false

namespace Ros2Graph

open Foundation

/-- The change of the registry that a step begins: the take of the mutex by a call that
may change it, or the inspection of a node by the update thread. -/
def CallSystem.serialEvent {Sample Answers : Type} (sys : CallSystem Sample) :
    CallStep Answers → Option Event
  | .advance caller =>
      match sys.calls caller with
      | some { request := .perform operation, env, routine := .signal .takeMutexSelf _ } =>
          some (.call env operation)
      | _ => none
  | .other (.inspect env) => some (.poll env sys.system.node)
  | _ => none

/-- The order of a run. -/
def CallSystem.serialHistory {Sample Answers : Type}
    (past : List (CallSystem Sample × CallStep Answers)) : List Event :=
  past.filterMap fun visit => visit.1.serialEvent visit.2

section

open CallSystem

variable {Sample Answers : Type} {dds : Dds} {convert : ConvertToSampleFn Sample Answers}
  {sys following : CallSystem Sample} {step : CallStep Answers}
  {holder later : Option CallerId}

/-- The other steps change the registry by the inspections of the update thread. -/
theorem GraphSystem.Steps.graphBeside {system next : GraphSystem Sample} {step : Step Answers}
    (stepped : system.Steps dds convert step next) (foreign : step.ofCall = false) :
    next.graph =
      ((match step with
        | .inspect env => some (Event.poll env system.node)
        | _ => none).map (system.graph.next dds)).getD system.graph := by
  have effect := GraphSystem.Steps.effect stepped
  cases effect with
  | performed | called | queued | left => cases foreign
  | _ => rfl

/-- The registry brought forward changes by the events of the order, and by nothing else. -/
theorem HeldEffect.serial (effect : HeldEffect dds convert sys holder step following later)
    (held : sys.Held dds holder) :
    (following.ahead later).graph =
      ((sys.serialEvent step).map ((sys.ahead holder).graph.next dds)).getD
        (sys.ahead holder).graph := by
  have replayed := effect.simulated held
  cases effect with
  | invoked | answered => exact (congrArg GraphSystem.graph (Option.some.inj replayed)).symm
  | @took caller call rest ongoing whole routine free within =>
      have outcome := OngoingCall.taken whole routine sys.system.graph
      obtain ⟨request, env, begun⟩ := call
      dsimp only at routine outcome
      subst routine
      rw [ahead_of (Function.update_self ..)]
      cases request with
      | perform operation =>
          have after : (operation.perform dds env sys.system.graph).graph =
              (rest.run sys.system.graph).memory := congrArg Outcome.graph outcome
          simp [serialEvent, ongoing, ahead, Graph.next, after]
      | _ =>
          have same : (rest.run sys.system.graph).memory = sys.system.graph :=
            (congrArg Outcome.graph outcome).symm.trans
              (Request.outcome_reading rfl dds env sys.system.graph).1
          simp [serialEvent, ongoing, ahead, same]
  | @computed caller call rest graph ongoing advanced within =>
      have silent : sys.serialEvent (.advance caller : CallStep Answers) = none := by
        obtain ⟨request, env, routine⟩ := call
        cases routine <;> cases request <;> simp_all [serialEvent, Routine.advance]
      have ran := Routine.run_advance advanced
      rw [silent, ahead_of ongoing, ahead_of (Function.update_self ..)]
      simp [ran]
  | @queued caller call rest ongoing routine changes within =>
      obtain ⟨request, env, begun⟩ := call
      dsimp only at routine
      subst routine
      rw [ahead_of ongoing, ahead_of (Function.update_self ..)]
      cases request <;> simp [serialEvent, ongoing, Routine.run]
  | @gave caller call value ongoing routine =>
      obtain ⟨request, env, begun⟩ := call
      dsimp only at routine
      subst routine
      rw [ahead_of ongoing]
      cases request <;> simp [serialEvent, ongoing, Routine.run, ahead]
  | @others _ step system foreign stepped =>
      cases holder with
      | none =>
          have changed := stepped.graphBeside foreign
          cases step <;> exact changed
      | some caller =>
          obtain ⟨call, ongoing, _⟩ := held.inside caller rfl
          have entered := held.mutex.mpr rfl
          have untouched := (stepped.besidesCalls foreign held.inStatements held.thread).2.2 entered
          have silent : sys.serialEvent (.other step) = none := by
            cases step with
            | inspect env =>
                have polling : sys.system.pc = .poll := by
                  simpa using (Bool.and_eq_true_iff.mp stepped.1).1
                have has := held.thread.mpr (by rw [polling]; rfl)
                cases entered.symm.trans has
            | _ => rfl
          rw [silent, ahead_of ongoing, @ahead_of _ { sys with system } caller call ongoing,
            untouched]
          rfl

/-- The point of a run at which a call takes effect: it takes the mutex there, and is not
made again until the end of the run. The registry is the one that the order gives. -/
def TakesEffect (dds : Dds) (start : CallSystem Sample)
    (past : List (CallSystem Sample × CallStep Answers)) (caller : CallerId) (call : OngoingCall)
    (value : PublicAnswer) : Prop :=
  ∃ before instant between rest,
    past = before ++ (instant, .advance caller) :: between ∧
    (∀ visit ∈ between, visit.2.invokes caller = false) ∧
    instant.calls caller = some { call with routine := .signal .takeMutexSelf rest } ∧
    instant.system.mutexSelf = .nobody ∧
    instant.system.graph = start.system.graph.after dds (serialHistory before) ∧
    value = (call.request.outcome dds call.env instant.system.graph).result

theorem TakesEffect.kept {start : CallSystem Sample}
    {past : List (CallSystem Sample × CallStep Answers)} {caller : CallerId} {call : OngoingCall}
    {value : PublicAnswer} (point : TakesEffect dds start past caller call value)
    (other : step.invokes caller = false) (state : CallSystem Sample) :
    TakesEffect dds start (past ++ [(state, step)]) caller call value := by
  obtain ⟨before, instant, between, rest, rfl, quiet, known⟩ := point
  refine ⟨before, instant, between ++ [(state, step)], rest, by simp, ?_, known⟩
  intro visit member
  rcases List.mem_append.mp member with earlier | now
  · exact quiet visit earlier
  · cases List.mem_singleton.mp now
    exact other

/-- What is known of every state of a run. -/
structure Ordered (dds : Dds) (start : CallSystem Sample)
    (past : List (CallSystem Sample × CallStep Answers)) (sys : CallSystem Sample)
    (holder : Option CallerId) : Prop where
  held : sys.Held dds holder
  registry : (sys.ahead holder).graph = start.system.graph.after dds (serialHistory past)
  -- A call that is not whole any more has taken effect, and is on its way to its answer.
  begun : ∀ caller call, sys.calls caller = some call →
    call.routine = call.request.routine dds call.env ∨
      TakesEffect dds start past caller call (call.routine.run sys.system.graph).result

/-- A call that another step passes by goes on to the same answer. -/
theorem HeldEffect.passes (effect : HeldEffect dds convert sys holder step following later)
    (held : sys.Held dds holder) {caller : CallerId} {call : OngoingCall}
    (ongoing : sys.calls caller = some call) (apart : step ≠ .advance caller) :
    call.routine = call.request.routine dds call.env ∨
      (call.routine.run following.system.graph).result =
        (call.routine.run sys.system.graph).result := by
  by_cases has : holder = some caller
  · refine .inr ?_
    have untouched : following.system.graph = sys.system.graph := by
      cases effect with
      | invoked | took | queued | gave | answered => rfl
      | computed =>
          cases has
          exact absurd rfl apart
      | others foreign stepped =>
          have entered := held.mutex.mpr (by rw [has]; rfl)
          exact (stepped.besidesCalls foreign held.inStatements held.thread).2.2 entered
    rw [untouched]
  · rcases held.outside caller call ongoing has with whole | ⟨value, done⟩
    · exact .inl whole
    · exact .inr (by rw [done]; rfl)

theorem HeldEffect.ordered {start : CallSystem Sample}
    {past : List (CallSystem Sample × CallStep Answers)}
    (effect : HeldEffect dds convert sys holder step following later)
    (ordered : Ordered dds start past sys holder) :
    Ordered dds start (past ++ [(sys, step)]) following later := by
  obtain ⟨held, registry, begun⟩ := ordered
  refine ⟨effect.held held, ?_, ?_⟩
  · rw [effect.serial held, registry]
    unfold serialHistory
    rw [List.filterMap_append]
    cases taken : sys.serialEvent step with
    | none => simp [taken]
    | some event => simp [taken, Graph.after]
  -- the calls that the step passes by, and then the call of the caller itself
  have others : ∀ caller call, sys.calls caller = some call → step ≠ .advance caller →
      call.routine = call.request.routine dds call.env ∨
        TakesEffect dds start (past ++ [(sys, step)]) caller call
          (call.routine.run following.system.graph).result := by
    intro caller call ongoing apart
    rcases begun caller call ongoing with whole | point
    · exact .inl whole
    · refine (effect.passes held ongoing apart).imp_right fun same => ?_
      rw [same]
      refine point.kept ?_ sys
      cases effect with
      | @invoked _ other env request idle =>
          have apart : other ≠ caller := by
            rintro rfl
            cases ongoing.symm.trans idle
          simpa [CallStep.invokes] using apart
      | _ => rfl
  have onwards : ∀ {caller call event rest}, sys.calls caller = some call →
      call.routine.advance sys.system.graph = some (event, rest, following.system.graph) →
      event ≠ some .takeMutexSelf →
      TakesEffect dds start (past ++ [(sys, .advance caller)]) caller { call with routine := rest }
        (rest.run following.system.graph).result := by
    intro caller call event rest ongoing advanced notTake
    have inside : call.routine ≠ call.request.routine dds call.env :=
      fun whole => notTake (OngoingCall.Outside.advance (.inl whole) advanced).2.1
    have point := (begun caller call ongoing).resolve_left inside
    rw [Routine.run_advance advanced] at point
    exact point.kept rfl sys
  intro caller call ongoing
  cases effect with
  | @invoked _ other env request idle =>
      by_cases same : caller = other
      · subst same
        cases (Function.update_self ..).symm.trans ongoing
        exact .inl rfl
      · exact others caller call ((Function.update_of_ne same ..).symm.trans ongoing) (by simp)
  | @took other inner rest known whole routine free within =>
      rcases leaveTo_cases ongoing with ⟨rfl, rfl⟩ | ⟨apart, same⟩
      · refine .inr ⟨past, sys, [], rest, rfl, by simp, ?_, free, registry, ?_⟩
        · rw [known, ← routine]
        · exact (congrArg Outcome.result
            (OngoingCall.taken whole routine sys.system.graph)).symm
      · exact others caller call same (by simpa using apart.symm)
  | @computed other inner rest graph known advanced within =>
      rcases leaveTo_cases ongoing with ⟨rfl, rfl⟩ | ⟨apart, same⟩
      · exact .inr (onwards known advanced (by simp))
      · exact others caller call same (by simpa using apart.symm)
  | @queued other inner rest known routine changes within =>
      rcases leaveTo_cases ongoing with ⟨rfl, rfl⟩ | ⟨apart, same⟩
      · exact .inr (onwards known (by rw [routine]; rfl) (by simp))
      · exact others caller call same (by simpa using apart.symm)
  | @gave other inner value known routine =>
      rcases leaveTo_cases ongoing with ⟨rfl, rfl⟩ | ⟨apart, same⟩
      · exact .inr (onwards known (by rw [routine]; rfl) (by simp))
      · exact others caller call same (by simpa using apart.symm)
  | @answered _ other inner value known done waits =>
      by_cases same : caller = other
      · subst same
        cases (Function.update_self ..).symm.trans ongoing
      · exact others caller call ((Function.update_of_ne same ..).symm.trans ongoing) (by simp)
  | others foreign stepped => exact others caller call ongoing (by simp)

namespace CallSystem

variable {start : CallSystem Sample} {past : List (CallSystem Sample × CallStep Answers)}

theorem RunFrom.ordered (run : RunFrom dds convert start past sys) (initial : start.IsInitial) :
    ∃ holder, Ordered dds start past sys holder := by
  induction run with
  | start same =>
      subst same
      exact ⟨none, initial.held, rfl, by simp [initial.2]⟩
  | extend run stepped ih =>
      obtain ⟨holder, ordered⟩ := ih
      obtain ⟨later, effect⟩ := (Steps.effect stepped).refine ordered.held
      exact ⟨later, effect.ordered ordered⟩

/-- A call that answers has taken effect, or has been refused its arguments. -/
theorem RunFrom.answered (run : RunFrom dds convert start past sys) (initial : start.IsInitial)
    {caller : CallerId} {value : PublicAnswer}
    (stepped : sys.Steps dds convert (.answer caller value) following) :
    ∃ call, sys.calls caller = some call ∧
      (TakesEffect dds start past caller call value ∨
        ∀ graph, call.request.outcome dds call.env graph = ⟨graph, value, []⟩) := by
  obtain ⟨holder, ordered⟩ := run.ordered initial
  have effect := Steps.effect stepped
  cases effect with
  | @answered _ call _ ongoing done =>
      refine ⟨call, ongoing, ?_⟩
      have begun := ordered.begun caller call ongoing
      rw [done] at begun
      rcases begun with whole | point
      · refine .inr fun graph => ?_
        have yields := call.request.routine_yields dds call.env graph
        unfold CallRoutine.Yields at yields
        rw [← whole] at yields
        cases outcome : call.request.outcome dds call.env graph with
        | mk after answer events =>
            rw [outcome] at yields
            cases yields
            rfl
      · exact .inl point

end CallSystem

/-- Linearizability, for any number of callers whose statements interleave in any way with
each other and with the update thread. When no call has the mutex, the registry is what
the calls leave that are made in the order in which they took it. Every call that returns
has taken effect at one instant between its invocation and its return, and has the answer
that it has there in that order; the others are those that are refused their arguments. -/
theorem calls_linearizable {start : CallSystem Sample}
    {past : List (CallSystem Sample × CallStep Answers)}
    (run : CallSystem.RunFrom dds convert start past sys) (initial : start.IsInitial) :
    (sys.system.mutexSelf ≠ .entered →
      sys.system.graph = start.system.graph.after dds (serialHistory past)) ∧
    ∀ front state caller value rest, past = front ++ (state, .answer caller value) :: rest →
      ∃ call, state.calls caller = some call ∧
        (TakesEffect dds start front caller call value ∨
          ∀ graph, call.request.outcome dds call.env graph = ⟨graph, value, []⟩) := by
  constructor
  · intro free
    obtain ⟨holder, ordered⟩ := run.ordered initial
    cases holder with
    | none => exact ordered.registry
    | some caller => exact absurd (ordered.held.mutex.mpr rfl) free
  · intro front state caller value rest split
    subst split
    obtain ⟨before, next, stepped, _⟩ := run.split
    exact RunFrom.answered before initial stepped

end

theorem calls_linearizable_racing :
    racingRun.2.system.graph = racingStart.system.graph.after clientsDds
        [.call (.granting (.answering [] [])) registration,
          .call (.granting (.answering [] [])) registration] ∧
      ∀ front state caller value rest, racingRun.1 = front ++ (state, .answer caller value) :: rest →
        ∃ call, state.calls caller = some call ∧
          (TakesEffect clientsDds racingStart front caller call value ∨
            ∀ graph, call.request.outcome clientsDds call.env graph = ⟨graph, value, []⟩) :=
  have initial : racingStart.IsInitial := CallSystem.started_initial _ _
  ⟨(calls_linearizable racingRun_runs initial).1 (by decide),
    (calls_linearizable racingRun_runs initial).2⟩

end Ros2Graph
