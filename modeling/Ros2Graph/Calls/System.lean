import Mathlib.Logic.Function.Basic
import Ros2Graph.Calls.RequestRuns
import Ros2Graph.Update.Shutdown

/-! Any number of callers at work on one graph, statement by statement, beside the
update thread and `RTIROS2_Graph_finalize`. Nothing but `mutex_self` keeps two of
them from the registry at once. -/

set_option autoImplicit false

namespace Ros2Graph

open Foundation

abbrev CallerId := Nat

/-- A call under way, with what the libraries answer it and the statements left. -/
structure OngoingCall where
  request : Request
  env : CallEnv
  routine : CallRoutine PublicAnswer

/-- The graph in memory: `mutex_self` is `entered` for as long as some call has it. -/
structure CallSystem (Sample : Type) where
  system : GraphSystem Sample
  calls : CallerId → Option OngoingCall

inductive CallStep (Answers : Type) where
  | invoke (caller : CallerId) (env : CallEnv) (request : Request)
  -- The caller executes its next statement.
  | advance (caller : CallerId)
  | answer (caller : CallerId) (value : PublicAnswer)
  -- A step of the update thread, or of `RTIROS2_Graph_finalize`.
  | other (step : Step Answers)

namespace CallStep

variable {Answers : Type}

def invokes (caller : CallerId) : CallStep Answers → Bool
  | .invoke another _ _ => another == caller
  | _ => false

def answers (caller : CallerId) : CallStep Answers → Bool
  | .answer another _ => another == caller
  | _ => false

def advances (caller : CallerId) : CallStep Answers → Bool
  | .advance another => another == caller
  | _ => false

end CallStep

/-- The steps that stand for a whole call. -/
def Step.ofCall {Answers : Type} : Step Answers → Bool
  | .enter | .perform _ _ | .leave => true
  | _ => false

/-- What a semaphore call of a caller does. A take waits until the mutex is free. -/
def GraphSystem.signal {Sample : Type} (sys : GraphSystem Sample) :
    SemEvent → Option (GraphSystem Sample)
  | .takeMutexSelf =>
      if sys.mutexSelf = .nobody then some { sys with mutexSelf := .entered } else none
  | .giveMutexSelf => some { sys with mutexSelf := .nobody }
  | .giveSemPinfo => some { sys with semPinfo := sys.semPinfo + 1 }

namespace CallSystem

variable {Sample Answers : Type}

def leaveTo (sys : CallSystem Sample) (caller : CallerId) (call : OngoingCall)
    (rest : CallRoutine PublicAnswer) : CallerId → Option OngoingCall :=
  Function.update sys.calls caller (some { call with routine := rest })

def next (dds : Dds) (convert : ConvertToSampleFn Sample Answers) (sys : CallSystem Sample) :
    CallStep Answers → Option (CallSystem Sample)
  | .invoke caller env request =>
      if (sys.calls caller).isNone then
        some { sys with
          calls := Function.update sys.calls caller
            (some { request, env, routine := request.routine dds env }) }
      else none
  | .advance caller =>
      match sys.calls caller with
      | none => none
      | some call =>
        match call.routine.advance sys.system.graph with
        | none => none
        | some (none, rest, graph) =>
            some { system := { sys.system with graph }, calls := sys.leaveTo caller call rest }
        | some (some event, rest, _) =>
            (sys.system.signal event).map fun system =>
              { system, calls := sys.leaveTo caller call rest }
  | .answer caller value =>
      match sys.calls caller with
      | some { routine := .done result, .. } =>
          if result = value then some { sys with calls := Function.update sys.calls caller none }
          else none
      | _ => none
  | .other step =>
      if !step.ofCall && sys.system.enabled dds convert step then
        some { sys with system := sys.system.next dds convert step }
      else none

def IsInitial (sys : CallSystem Sample) : Prop :=
  sys.system.IsInitial ∧ sys.calls = fun _ => none

abbrev Steps (dds : Dds) (convert : ConvertToSampleFn Sample Answers) (sys : CallSystem Sample)
    (step : CallStep Answers) (following : CallSystem Sample) : Prop :=
  sys.next dds convert step = some following

abbrev RunFrom (dds : Dds) (convert : ConvertToSampleFn Sample Answers)
    (start : CallSystem Sample) :
    List (CallSystem Sample × CallStep Answers) → CallSystem Sample → Prop :=
  Execution (fun sys => sys = start) (Steps dds convert)

/-- The visits of the steps, when each can be taken in its turn. -/
def replay (dds : Dds) (convert : ConvertToSampleFn Sample Answers) (sys : CallSystem Sample) :
    List (CallStep Answers) → Option (List (CallSystem Sample × CallStep Answers) × CallSystem Sample)
  | [] => some ([], sys)
  | step :: rest =>
    match sys.next dds convert step with
    | none => none
    | some next => (next.replay dds convert rest).map fun run => ((sys, step) :: run.1, run.2)

def started (pollPeriod : Duration) (pinfo : Sample) : CallSystem Sample where
  system := .started pollPeriod pinfo
  calls := fun _ => none

theorem started_initial (pollPeriod : Duration) (pinfo : Sample) :
    (started pollPeriod pinfo).IsInitial :=
  ⟨⟨_, _, _, ⟨⟨0⟩, pollPeriod, rfl⟩, rfl⟩, rfl⟩

def runOf (dds : Dds) (convert : ConvertToSampleFn Sample Answers) (sys : CallSystem Sample)
    (steps : List (CallStep Answers)) :
    List (CallSystem Sample × CallStep Answers) × CallSystem Sample :=
  (sys.replay dds convert steps).getD ([], sys)

theorem RunFrom.ofReplay {dds : Dds} {convert : ConvertToSampleFn Sample Answers}
    {sys : CallSystem Sample} {steps : List (CallStep Answers)}
    (fits : (sys.replay dds convert steps).isSome = true) :
    RunFrom dds convert sys (sys.runOf dds convert steps).1 (sys.runOf dds convert steps).2 := by
  have replayed : ∀ (steps : List (CallStep Answers)) {early past : List _}
      {middle last : CallSystem Sample}, RunFrom dds convert sys early middle →
      middle.replay dds convert steps = some (past, last) →
      RunFrom dds convert sys (early ++ past) last := by
    intro steps
    induction steps with
    | nil =>
        intro early past middle last run done
        cases done
        simpa using run
    | cons step rest ih =>
        intro early past middle last run fits
        unfold replay at fits
        split at fits
        · cases fits
        · next stepped =>
          obtain ⟨later, onwards, same⟩ := Option.map_eq_some_iff.mp fits
          cases same
          simpa [List.append_assoc] using ih (run.extend stepped) onwards
  obtain ⟨run, done⟩ := Option.isSome_iff_exists.mp fits
  simpa [runOf, done] using replayed steps (.start rfl) done

end CallSystem

open CallSystem in
/-- Everything one step can do. -/
inductive CallEffect {Sample Answers : Type} (dds : Dds)
    (convert : ConvertToSampleFn Sample Answers) (sys : CallSystem Sample) :
    CallStep Answers → CallSystem Sample → Prop where
  | invoked {caller env request} : sys.calls caller = none →
      CallEffect dds convert sys (.invoke caller env request)
        { sys with
          calls := Function.update sys.calls caller
            (some { request, env, routine := request.routine dds env }) }
  | computed {caller call rest graph} : sys.calls caller = some call →
      call.routine.advance sys.system.graph = some (none, rest, graph) →
      CallEffect dds convert sys (.advance caller)
        { system := { sys.system with graph }, calls := sys.leaveTo caller call rest }
  | signalled {caller call event rest system} : sys.calls caller = some call →
      call.routine = .signal event rest → sys.system.signal event = some system →
      CallEffect dds convert sys (.advance caller)
        { system, calls := sys.leaveTo caller call rest }
  | answered {caller call value} : sys.calls caller = some call → call.routine = .done value →
      CallEffect dds convert sys (.answer caller value)
        { sys with calls := Function.update sys.calls caller none }
  | others {step system} : step.ofCall = false → sys.system.Steps dds convert step system →
      CallEffect dds convert sys (.other step) { sys with system }

theorem CallSystem.Steps.effect {Sample Answers : Type} {dds : Dds}
    {convert : ConvertToSampleFn Sample Answers} {sys following : CallSystem Sample}
    {step : CallStep Answers} (stepped : sys.Steps dds convert step following) :
    CallEffect dds convert sys step following := by
  unfold CallSystem.Steps at stepped
  cases step with
  | invoke caller env request =>
      obtain ⟨idle, done⟩ := Option.ite_none_right_eq_some.mp stepped
      cases done
      exact .invoked (Option.isNone_iff_eq_none.mp idle)
  | advance caller =>
      simp only [next] at stepped
      split at stepped
      · cases stepped
      · next call ongoing =>
        split at stepped
        · cases stepped
        · next rest graph advanced =>
          cases stepped
          exact .computed ongoing advanced
        · next event rest graph advanced =>
          obtain ⟨system, signalled, rfl⟩ := Option.map_eq_some_iff.mp stepped
          refine .signalled ongoing ?_ signalled
          cases whole : call.routine <;> rw [whole] at advanced <;> cases advanced
          rfl
  | answer caller value =>
      simp only [next] at stepped
      split at stepped
      · next request env result ongoing =>
        obtain ⟨same, done⟩ := Option.ite_none_right_eq_some.mp stepped
        subst same
        cases done
        exact .answered ongoing rfl
      · cases stepped
  | other step =>
      obtain ⟨taken, done⟩ := Option.ite_none_right_eq_some.mp stepped
      cases done
      simp only [Bool.and_eq_true, Bool.not_eq_true'] at taken
      exact .others taken.1 ⟨taken.2, rfl⟩

end Ros2Graph
