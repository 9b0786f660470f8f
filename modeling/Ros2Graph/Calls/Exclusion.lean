import Ros2Graph.Calls.Linearization

/-! What the mutex keeps apart. No two parties are at statements on the registry at once, and
nobody can prolong the section of a caller that has the mutex. -/

set_option autoImplicit false

namespace Ros2Graph

open Foundation

namespace CallSystem

variable {Sample Answers : Type}

/-- The next statement of the caller loads or stores the registry, or signals anything but
the take of the mutex. -/
def InSection (sys : CallSystem Sample) (caller : CallerId) : Prop :=
  ∃ call event rest graph, sys.calls caller = some call ∧
    call.routine.advance sys.system.graph = some (event, rest, graph) ∧
      event ≠ some .takeMutexSelf

/-- The statements that a caller has left, when nobody interferes. -/
def statementsLeft (sys : CallSystem Sample) (caller : CallerId) : Nat :=
  match sys.calls caller with
  | none => 0
  | some call => call.routine.length sys.system.graph

/-- The caller has taken the mutex, or is past giving it. -/
def HasTaken (sys : CallSystem Sample) (holder : Option CallerId) (caller : CallerId) : Prop :=
  ∃ call, sys.calls caller = some call ∧
    (holder = some caller ∨ ∃ value, call.routine = .done value)

/-- How often the caller goes on to its next statement. -/
def advances (caller : CallerId) (visits : List (CallSystem Sample × CallStep Answers)) : Nat :=
  visits.countP (·.2.advances caller)

end CallSystem

section

open CallSystem

variable {Sample Answers : Type} {dds : Dds} {convert : ConvertToSampleFn Sample Answers}
  {sys following start : CallSystem Sample} {step : CallStep Answers}
  {past : List (CallSystem Sample × CallStep Answers)} {holder later : Option CallerId}

theorem CallSystem.Held.inSection (held : sys.Held dds holder) {caller : CallerId}
    (working : sys.InSection caller) : holder = some caller := by
  obtain ⟨call, event, rest, graph, ongoing, advanced, notTake⟩ := working
  exact (held.ofAdvance ongoing advanced notTake).1

/-- Freedom from data races: a caller whose next statement is on the registry has the mutex,
is the only one, and the update thread is not at the registry. -/
theorem no_data_race (run : CallSystem.RunFrom dds convert start past sys)
    (initial : start.IsInitial) (caller : CallerId) (working : sys.InSection caller) :
    sys.system.mutexSelf = .entered ∧ sys.system.pc.holdsMutex = false ∧
      ∀ other, sys.InSection other → other = caller := by
  obtain ⟨holder, held⟩ := run.held initial
  have has := held.inSection working
  have entered : sys.system.mutexSelf = .entered := held.mutex.mpr (by rw [has]; rfl)
  refine ⟨entered, held.thread.besideCall entered, fun other busy => ?_⟩
  exact Option.some.inj ((held.inSection busy).symm.trans has)

/-- The holder executes a statement. Another caller that has taken the mutex has its result. -/
theorem CallSystem.HasTaken.worked {caller other : CallerId} {inner : OngoingCall}
    {event : Option SemEvent} {rest : CallRoutine PublicAnswer} {system : GraphSystem Sample}
    (taken : sys.HasTaken (some other) caller) (known : sys.calls other = some inner)
    (advanced : inner.routine.advance sys.system.graph = some (event, rest, system.graph))
    (goesOn : later = some other ∨ ∃ value, rest = .done value) :
    CallSystem.HasTaken ⟨system, sys.leaveTo other inner rest⟩ later caller ∧
      advances caller [(sys, (.advance other : CallStep Answers))] +
          CallSystem.statementsLeft ⟨system, sys.leaveTo other inner rest⟩ caller =
        sys.statementsLeft caller := by
  obtain ⟨call, ongoing, phase⟩ := taken
  by_cases apart : other = caller
  · subst apart
    cases known.symm.trans ongoing
    have one := Routine.length_advance advanced
    refine ⟨⟨_, Function.update_self .., goesOn⟩, ?_⟩
    simp only [advances, CallStep.advances, beq_self_eq_true, List.countP_singleton, if_true,
      CallSystem.statementsLeft, leaveTo, Function.update_self, ongoing, one]
    omega
  · obtain ⟨value, done⟩ := phase.resolve_left fun same => apart (Option.some.inj same)
    have unchanged : sys.leaveTo other inner rest caller = some call :=
      (Function.update_of_ne (Ne.symm apart) ..).trans ongoing
    refine ⟨⟨call, unchanged, .inr ⟨value, done⟩⟩, ?_⟩
    simp [advances, CallStep.advances, apart, CallSystem.statementsLeft, unchanged, ongoing, done,
      Routine.length]

/-- A step leaves a caller that has taken the mutex as many statements as it had, less the
one that it executes itself. -/
theorem HeldEffect.statementsLeft (effect : HeldEffect dds convert sys holder step following later)
    (held : sys.Held dds holder) {caller : CallerId} (taken : sys.HasTaken holder caller)
    (stays : step.answers caller = false) :
    following.HasTaken later caller ∧
      advances caller [(sys, step)] + following.statementsLeft caller =
        sys.statementsLeft caller := by
  cases effect with
  | computed known advanced within => exact taken.worked known advanced (.inl rfl)
  | queued known routine changes within =>
      exact taken.worked known (by rw [routine]; rfl) (.inl rfl)
  | gave known routine => exact taken.worked known (by rw [routine]; rfl) (.inr ⟨_, rfl⟩)
  | @invoked _ other env request idle =>
      obtain ⟨call, ongoing, phase⟩ := taken
      have apart : caller ≠ other := by
        rintro rfl
        cases idle.symm.trans ongoing
      have unchanged : ∀ changed, Function.update sys.calls other changed caller = some call :=
        fun changed => (Function.update_of_ne apart changed sys.calls).trans ongoing
      refine ⟨⟨call, unchanged _, phase⟩, ?_⟩
      simp [advances, CallStep.advances, CallSystem.statementsLeft, unchanged, ongoing]
  | @took other inner rest known whole routine free within =>
      obtain ⟨call, ongoing, phase⟩ := taken
      obtain ⟨value, done⟩ := phase.resolve_left (by simp)
      have apart : caller ≠ other := by
        rintro rfl
        cases known.symm.trans ongoing
        cases routine.symm.trans done
      have unchanged : ∀ changed, Function.update sys.calls other changed caller = some call :=
        fun changed => (Function.update_of_ne apart changed sys.calls).trans ongoing
      refine ⟨⟨call, unchanged _, .inr ⟨value, done⟩⟩, ?_⟩
      simp [advances, CallStep.advances, CallSystem.statementsLeft, leaveTo, unchanged, ongoing,
        apart.symm]
  | @answered _ other inner value known done waits =>
      obtain ⟨call, ongoing, phase⟩ := taken
      have apart : caller ≠ other := by
        rintro rfl
        simp [CallStep.answers] at stays
      have unchanged : ∀ changed, Function.update sys.calls other changed caller = some call :=
        fun changed => (Function.update_of_ne apart changed sys.calls).trans ongoing
      refine ⟨⟨call, unchanged _, phase⟩, ?_⟩
      simp [advances, CallStep.advances, CallSystem.statementsLeft, unchanged, ongoing]
  | @others _ step system foreign stepped =>
      obtain ⟨call, ongoing, phase⟩ := taken
      refine ⟨⟨call, ongoing, phase⟩, ?_⟩
      rcases phase with has | ⟨value, done⟩
      · have entered := held.mutex.mpr (by rw [has]; rfl)
        have untouched := (stepped.besidesCalls foreign held.inStatements held.thread).2.2 entered
        simp [advances, CallStep.advances, CallSystem.statementsLeft, ongoing, untouched]
      · simp [advances, CallStep.advances, CallSystem.statementsLeft, ongoing, done, Routine.length]

/-- Nobody prolongs the section of a caller that has the mutex: from the take on it needs as
many statements as it would need alone, whatever the others do in between. -/
theorem section_not_prolonged (run : CallSystem.RunFrom dds convert start past sys)
    (initial : start.IsInitial) (caller : CallerId) (working : sys.InSection caller)
    {visits : List (CallSystem Sample × CallStep Answers)} {last : CallSystem Sample}
    (onward : CallSystem.RunFrom dds convert sys visits last)
    (stays : ∀ visit ∈ visits, visit.2.answers caller = false) :
    advances caller visits + last.statementsLeft caller = sys.statementsLeft caller := by
  obtain ⟨holder, held⟩ := run.held initial
  have has := held.inSection working
  have kept : ∃ holder, last.Held dds holder ∧ last.HasTaken holder caller ∧
      advances caller visits + last.statementsLeft caller = sys.statementsLeft caller := by
    induction onward with
    | start same =>
        subst same
        obtain ⟨call, _, _, _, ongoing, _⟩ := working
        exact ⟨holder, held, ⟨call, ongoing, .inl has⟩, by simp [advances]⟩
    | @extend visits state next step onward stepped ih =>
        obtain ⟨now, heldNow, taken, count⟩ := ih fun visit member =>
          stays visit (List.mem_append_left _ member)
        obtain ⟨later, effect⟩ := (Steps.effect stepped).refine heldNow
        obtain ⟨still, less⟩ := effect.statementsLeft heldNow taken
          (stays (state, step) (List.mem_append_right _ List.mem_cons_self))
        refine ⟨later, effect.held heldNow, still, ?_⟩
        rw [advances, List.countP_append, ← advances, ← advances]
        omega
  exact kept.choose_spec.2.2

end

/-! One of two racing callers is in the middle of its section. -/

def sectionRun :
    List (CallSystem (List NodeView) × CallStep Unit) × CallSystem (List NodeView) :=
  racingStart.runOf clientsDds (.reading fun _ nodes => nodes.map (·.view)) (racingSteps.take 10)

theorem sectionRun_runs :
    CallSystem.RunFrom clientsDds (.reading fun _ nodes => nodes.map (·.view)) racingStart
      sectionRun.1 sectionRun.2 :=
  .ofReplay rfl

theorem no_data_race_section :
    sectionRun.2.system.mutexSelf = .entered ∧ sectionRun.2.system.pc.holdsMutex = false ∧
      ∀ other, sectionRun.2.InSection other → other = 0 :=
  no_data_race sectionRun_runs (CallSystem.started_initial _ _) 0
    ⟨_, _, _, _, rfl, rfl, by decide⟩

/-- The section goes on beside the update thread. -/
def sectionOnward :
    List (CallSystem (List NodeView) × CallStep Unit) × CallSystem (List NodeView) :=
  sectionRun.2.runOf clientsDds (.reading fun _ nodes => nodes.map (·.view))
    (List.replicate 18 (.advance 0) ++ [.other .takePermit, .advance 0])

theorem section_not_prolonged_section :
    CallSystem.advances 0 sectionOnward.1 + sectionOnward.2.statementsLeft 0 =
      sectionRun.2.statementsLeft 0 :=
  section_not_prolonged sectionRun_runs (CallSystem.started_initial _ _) 0
    ⟨_, _, _, _, rfl, rfl, by decide⟩
    (CallSystem.RunFrom.ofReplay rfl) (by decide)

end Ros2Graph
