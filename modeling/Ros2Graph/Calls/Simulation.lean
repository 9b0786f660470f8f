import Ros2Graph.Calls.Holder

/-! Statement by statement, the graph does nothing that it does not do call by call.
The state of the one is brought forward to a state of the other: the call that has the
mutex has done all its work, and has its semaphore calls left to make. -/

set_option autoImplicit false

namespace Ros2Graph

open Foundation

namespace OngoingCall

/-- A call that changes nothing is not seen at all. -/
def aheadMutex (call : OngoingCall) (graph : Graph) : MutexHolder :=
  if call.request.changes then .leaving (call.routine.run graph).events else .nobody

end OngoingCall

/-- The same graph with the call that has the mutex brought to its end. -/
def CallSystem.ahead {Sample : Type} (sys : CallSystem Sample) (holder : Option CallerId) :
    GraphSystem Sample :=
  match holder.bind sys.calls with
  | none => sys.system
  | some call =>
      { sys.system with
        graph := (call.routine.run sys.system.graph).memory
        mutexSelf := call.aheadMutex sys.system.graph }

/-- The steps of whole calls that one step of the statements stands for: a call does all
its work when it takes the mutex. -/
def CallSystem.wholeSteps {Sample Answers : Type} (sys : CallSystem Sample) :
    CallStep Answers → List (Step Answers)
  | .advance caller =>
      match sys.calls caller with
      | some { request := .perform operation, env, routine := .signal .takeMutexSelf _ } =>
          [.enter, .perform env operation]
      | some { request := .perform _, routine := .signal _ _, .. } => [.leave]
      | _ => []
  | .other step => [step]
  | .invoke .. | .answer .. => []

section

variable {Sample Answers : Type} {dds : Dds} {convert : ConvertToSampleFn Sample Answers}

/-- A step beside a call that has the mutex does not see the registry, nor whether the
call has the mutex. -/
theorem GraphSystem.Steps.aside {system next : GraphSystem Sample} {step : Step Answers}
    (stepped : system.Steps dds convert step next) (foreign : step.ofCall = false)
    (entered : system.mutexSelf = .entered) (excluded : system.Excluded) (graph : Graph)
    (mutexSelf : MutexHolder) :
    GraphSystem.Steps dds convert { system with graph, mutexSelf } step
      { next with graph, mutexSelf } := by
  have free := excluded.besideCall entered
  obtain ⟨enabled, rfl⟩ := stepped
  cases step with
  | enter | perform | leave => cases foreign
  | lockPoll | lockGather | lockConvert => simp [GraphSystem.enabled, entered] at enabled
  | inspect | unlockPoll | gather | unlockGather | convert | unlockConvert | unlockFailed =>
      simp only [GraphSystem.enabled, Bool.and_eq_true, beq_iff_eq] at enabled
      simp_all [ThreadPc.holdsMutex]
  | retake | drain | pick =>
      refine ⟨enabled, ?_⟩
      simp only [GraphSystem.next]
      split <;> rfl
  | publish retcode =>
      refine ⟨enabled, ?_⟩
      simp only [GraphSystem.next]
      split <;> rfl
  | _ => exact ⟨enabled, rfl⟩

theorem GraphSystem.replay_append (sys : GraphSystem Sample) (front rest : List (Step Answers)) :
    sys.replay dds convert (front ++ rest) =
      (sys.replay dds convert front).bind (·.replay dds convert rest) := by
  induction front generalizing sys with
  | nil => rfl
  | cons step front ih =>
      simp only [List.cons_append, GraphSystem.replay]
      split
      · exact ih _
      · rfl

theorem GraphSystem.replay_one {sys next : GraphSystem Sample} {step : Step Answers}
    (stepped : sys.Steps dds convert step next) :
    sys.replay dds convert [step] = some next := by
  obtain ⟨enabled, rfl⟩ := stepped
  simp [GraphSystem.replay, enabled]

section

open CallSystem

variable {sys following : CallSystem Sample} {step : CallStep Answers}
  {holder later : Option CallerId}

theorem CallSystem.ahead_of {caller : CallerId} {call : OngoingCall}
    (ongoing : sys.calls caller = some call) :
    sys.ahead (some caller) =
      { sys.system with
        graph := (call.routine.run sys.system.graph).memory
        mutexSelf := call.aheadMutex sys.system.graph } := by
  simp [ahead, ongoing]

/-- The take of the mutex is the whole call, when the call can change something. -/
theorem took_simulated {caller : CallerId} {call : OngoingCall} {rest : CallRoutine PublicAnswer}
    (ongoing : sys.calls caller = some call)
    (whole : call.routine = call.request.routine dds call.env)
    (routine : call.routine = .signal .takeMutexSelf rest)
    (free : sys.system.mutexSelf = .nobody) :
    sys.system.replay dds convert (sys.wholeSteps (.advance caller)) =
      some { sys.system with
        graph := (rest.run sys.system.graph).memory
        mutexSelf := OngoingCall.aheadMutex { call with routine := rest } sys.system.graph } := by
  have outcome := OngoingCall.taken whole routine sys.system.graph
  obtain ⟨request, env, begun⟩ := call
  dsimp only at routine outcome ⊢
  subst routine
  cases request with
  | perform operation =>
      have first : (operation.perform dds env sys.system.graph).events =
          .takeMutexSelf :: (rest.run sys.system.graph).events := congrArg Outcome.events outcome
      have after : (operation.perform dds env sys.system.graph).graph =
          (rest.run sys.system.graph).memory := congrArg Outcome.graph outcome
      simp [wholeSteps, ongoing, GraphSystem.replay, GraphSystem.enabled, GraphSystem.next, free,
        first, after, OngoingCall.aheadMutex, Request.changes]
  | _ =>
      have same : (rest.run sys.system.graph).memory = sys.system.graph :=
        (congrArg Outcome.graph outcome).symm.trans
          (Request.outcome_reading rfl dds env sys.system.graph).1
      have nobody : MutexHolder.nobody = sys.system.mutexSelf := free.symm
      simp [wholeSteps, ongoing, GraphSystem.replay, OngoingCall.aheadMutex, Request.changes, same,
        nobody]

/-- What the caller that has the mutex is at decides how far ahead the graph is. -/
theorem CallSystem.ahead_congr (same : following.system = sys.system)
    (kept : ∀ caller, holder = some caller → following.calls caller = sys.calls caller) :
    following.ahead holder = sys.ahead holder := by
  cases holder with
  | none => exact same
  | some caller => simp only [ahead, Option.bind_some, kept caller rfl, same]

/-- One step of the statements is the steps of whole calls that it stands for. -/
theorem HeldEffect.simulated (effect : HeldEffect dds convert sys holder step following later)
    (held : sys.Held dds holder) :
    (sys.ahead holder).replay dds convert (sys.wholeSteps step) =
      some (following.ahead later) := by
  cases effect with
  | @invoked _ caller env request idle =>
      refine congrArg some (Eq.symm ?_)
      refine ahead_congr rfl fun other has => ?_
      obtain ⟨call, ongoing, _⟩ := held.inside other has
      have apart : other ≠ caller := by
        rintro rfl
        cases idle.symm.trans ongoing
      exact Function.update_of_ne apart ..
  | @took caller call rest ongoing whole routine free within =>
      rw [ahead_of (Function.update_self ..)]
      exact took_simulated ongoing whole routine free
  | @computed caller call rest graph ongoing advanced within =>
      have silent : sys.wholeSteps (.advance caller : CallStep Answers) = [] := by
        obtain ⟨request, env, routine⟩ := call
        cases routine <;> cases request <;> simp_all [wholeSteps, Routine.advance]
      have ran := Routine.run_advance advanced
      rw [silent, ahead_of ongoing, ahead_of (Function.update_self ..)]
      simp [GraphSystem.replay, OngoingCall.aheadMutex, ran]
  | @queued caller call rest ongoing routine changes within =>
      obtain ⟨request, env, begun⟩ := call
      cases request with
      | perform operation =>
          dsimp only at routine
          subst routine
          rw [ahead_of ongoing, ahead_of (Function.update_self ..)]
          simp [wholeSteps, ongoing, GraphSystem.replay, GraphSystem.enabled, GraphSystem.next,
            OngoingCall.aheadMutex, Request.changes, Routine.run]
      | _ => cases changes
  | @gave caller call value ongoing routine =>
      obtain ⟨request, env, begun⟩ := call
      dsimp only at routine
      subst routine
      rw [ahead_of ongoing]
      cases request <;>
        simp [wholeSteps, ongoing, GraphSystem.replay, GraphSystem.enabled, GraphSystem.next,
          OngoingCall.aheadMutex, Request.changes, Routine.run, ahead]
  | @answered _ caller call value ongoing done waits =>
      refine congrArg some (Eq.symm ?_)
      refine ahead_congr rfl fun other has => ?_
      have apart : other ≠ caller := by
        rintro rfl
        exact waits has
      exact Function.update_of_ne apart ..
  | @others _ step system foreign stepped =>
      cases holder with
      | none => exact GraphSystem.replay_one stepped
      | some caller =>
          obtain ⟨call, ongoing, _⟩ := held.inside caller rfl
          have entered := held.mutex.mpr rfl
          have untouched := (stepped.besidesCalls foreign held.inStatements held.thread).2.2 entered
          have aside := stepped.aside foreign entered held.thread
            (call.routine.run sys.system.graph).memory (call.aheadMutex sys.system.graph)
          rw [ahead_of ongoing, @ahead_of _ { sys with system } caller call ongoing, untouched]
          exact GraphSystem.replay_one aside

namespace CallSystem

variable {start : CallSystem Sample} {past : List (CallSystem Sample × CallStep Answers)}

/-- The steps of whole calls of a run. -/
def wholeHistory (past : List (CallSystem Sample × CallStep Answers)) : List (Step Answers) :=
  past.flatMap fun visit => visit.1.wholeSteps visit.2

theorem RunFrom.simulated (run : RunFrom dds convert start past sys) (initial : start.IsInitial) :
    ∃ holder, sys.Held dds holder ∧
      start.system.replay dds convert (wholeHistory past) = some (sys.ahead holder) := by
  induction run with
  | start same =>
      subst same
      exact ⟨none, initial.held, rfl⟩
  | @extend past state next step run stepped ih =>
      obtain ⟨holder, held, replayed⟩ := ih
      obtain ⟨later, effect⟩ := (Steps.effect stepped).refine held
      refine ⟨later, effect.held held, ?_⟩
      rw [wholeHistory, List.flatMap_append, GraphSystem.replay_append, ← wholeHistory, replayed]
      simpa using effect.simulated held

end CallSystem

/-- Every interleaving of the statements of all callers is an order of whole calls: the
same steps of the update thread and of `RTIROS2_Graph_finalize`, in the same order, between
calls that do all their work at once, lead to what everybody but the caller that has the
mutex can see. -/
theorem statements_refine_calls {start : CallSystem Sample}
    {past : List (CallSystem Sample × CallStep Answers)}
    (run : CallSystem.RunFrom dds convert start past sys) (initial : start.IsInitial) :
    ∃ whole, start.system.replay dds convert (wholeHistory past) = some whole ∧
      whole = { sys.system with graph := whole.graph, mutexSelf := whole.mutexSelf } ∧
      (sys.system.mutexSelf ≠ .entered → whole = sys.system) := by
  obtain ⟨holder, held, replayed⟩ := run.simulated initial
  refine ⟨_, replayed, ?_, ?_⟩
  · unfold ahead
    split <;> rfl
  · intro free
    cases holder with
    | none => rfl
    | some caller => exact absurd (held.mutex.mpr rfl) free

end

end

/-! Two callers register one name at once, beside the update thread. -/

def registration : Operation := .registerLocalNode (some firstName) none none

def racingSteps : List (CallStep Unit) :=
  [.invoke 0 (.granting (.answering [] [])) (.perform registration),
    .invoke 1 (.granting (.answering [] [])) (.perform registration), .advance 0,
    .other .testActive] ++
  List.replicate 24 (.advance 0) ++
  [.other .takePermit, .advance 0, .advance 1, .answer 0 (.answer (.handle 0))] ++
  List.replicate 3 (.advance 1) ++ [.answer 1 (.answer (.handle (-1)))]

def racingStart : CallSystem (List NodeView) := .started Duration.infinite []

def racingRun : List (CallSystem (List NodeView) × CallStep Unit) × CallSystem (List NodeView) :=
  racingStart.runOf clientsDds (.reading fun _ nodes => nodes.map (·.view)) racingSteps

theorem racingRun_runs :
    CallSystem.RunFrom clientsDds (.reading fun _ nodes => nodes.map (·.view)) racingStart
      racingRun.1 racingRun.2 :=
  .ofReplay rfl

theorem statements_refine_calls_racing :
    ∃ whole, racingStart.system.replay clientsDds (.reading fun _ nodes => nodes.map (·.view))
          (CallSystem.wholeHistory racingRun.1) = some whole ∧
      whole = { racingRun.2.system with graph := whole.graph, mutexSelf := whole.mutexSelf } ∧
      (racingRun.2.system.mutexSelf ≠ .entered → whole = racingRun.2.system) :=
  statements_refine_calls racingRun_runs (CallSystem.started_initial _ _)

end Ros2Graph
