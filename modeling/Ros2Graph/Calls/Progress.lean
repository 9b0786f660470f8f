import Mathlib.Data.Set.Card
import Ros2Graph.Calls.Exclusion
import Ros2Graph.Update.Adapters

/-! Every call returns. When no new call is made and no time-out passes, the callers and
the update thread cannot go on for ever, and they come to a halt only where all calls have
returned: neither the mutex nor the semaphores can hold one of them up. -/

set_option autoImplicit false

namespace Ros2Graph

open Foundation

def OngoingCall.AtDoor (call : OngoingCall) : Prop :=
  ∃ rest, call.routine = .signal .takeMutexSelf rest

/-- No new call, no time-out, and no step of `RTIROS2_Graph_finalize`. -/
def CallStep.quiet {Answers : Type} : CallStep Answers → Bool
  | .invoke .. => false
  | .advance _ | .answer .. => true
  | .other step => step.ofThread && !step.isTimeOut

namespace CallSystem

variable {Sample Answers : Type}

def ongoing (sys : CallSystem Sample) : Set CallerId :=
  {caller | sys.calls caller ≠ none}

/-- The callers that are about to take the mutex. -/
def atDoor (sys : CallSystem Sample) : Set CallerId :=
  {caller | ∃ call, sys.calls caller = some call ∧ call.AtDoor}

open Classical in
/-- The statements left to the caller that has the mutex. -/
noncomputable def sectionLeft (sys : CallSystem Sample) : Nat :=
  if working : ∃ caller, sys.InSection caller then sys.statementsLeft working.choose else 0

/-- A caller that takes the mutex may prolong the updates, and its section gives them
permits: callers come before the section, and the section before the update thread. -/
noncomputable def rank (sys : CallSystem Sample) : ℕ × ℕ × ℕ :=
  (sys.atDoor.ncard, sys.sectionLeft, sys.system.work + sys.ongoing.ncard)

def Lower : ℕ × ℕ × ℕ → ℕ × ℕ × ℕ → Prop :=
  Prod.Lex (· < ·) (Prod.Lex (· < ·) (· < ·))

theorem lower_wellFounded : WellFounded Lower :=
  wellFounded_lt.prod_lex (wellFounded_lt.prod_lex wellFounded_lt)

/-- Neither a caller nor the update thread has a step. -/
def Halted (dds : Dds) (convert : ConvertToSampleFn Sample Answers)
    (sys : CallSystem Sample) : Prop :=
  Execution.Stuck (Steps dds convert) (fun _ step => step.quiet = true) sys

/-- What is known of every state of a run. -/
structure Steady (dds : Dds) (sys : CallSystem Sample) (holder : Option CallerId) : Prop where
  held : sys.Held dds holder
  reachable : holder = none → sys.system.graph.Reachable dds
  inPlace : sys.system.InPlace
  finite : sys.ongoing.Finite

end CallSystem

section

open CallSystem

variable {Sample Answers : Type} {dds : Dds} {convert : ConvertToSampleFn Sample Answers}
  {sys following start : CallSystem Sample} {step : CallStep Answers}
  {past : List (CallSystem Sample × CallStep Answers)} {holder later : Option CallerId}

theorem OngoingCall.Inside.notAtDoor {call : OngoingCall} {graph : Graph}
    (inside : call.Inside graph) : ¬ call.AtDoor := by
  rintro ⟨rest, routine⟩
  have locked := inside.locked
  rw [routine] at locked
  cases locked with
  | signal notTake => exact notTake rfl

theorem CallSystem.Held.inSection_holder {caller : CallerId}
    (held : sys.Held dds (some caller)) : sys.InSection caller := by
  obtain ⟨call, ongoing, inside⟩ := held.inside caller rfl
  obtain ⟨event, rest, graph, advanced⟩ := inside.locked.canAdvance sys.system.graph
  refine ⟨call, event, rest, graph, ongoing, advanced, ?_⟩
  rcases inside.locked.advance advanced with ⟨given, _⟩ | ⟨notTake, _⟩
  · rw [given]
    simp
  · exact notTake

theorem CallSystem.Held.sectionLeft_holder {caller : CallerId}
    (held : sys.Held dds (some caller)) : sys.sectionLeft = sys.statementsLeft caller := by
  have working : ∃ caller, sys.InSection caller := ⟨caller, held.inSection_holder⟩
  have same : caller = working.choose := Option.some.inj (held.inSection working.choose_spec)
  rw [sectionLeft, dif_pos working, ← same]

theorem CallSystem.Held.sectionLeft_nobody (held : sys.Held dds none) : sys.sectionLeft = 0 := by
  refine dif_neg ?_
  rintro ⟨caller, working⟩
  cases held.inSection working

/-- A caller that goes on within its section is not at the door, and was not. -/
theorem CallSystem.leaveTo_atDoor {caller : CallerId} {call : OngoingCall}
    {rest : CallRoutine PublicAnswer} {system : GraphSystem Sample}
    (ongoing : sys.calls caller = some call) (before : ¬ call.AtDoor)
    (after : ¬ OngoingCall.AtDoor { call with routine := rest }) :
    atDoor { system, calls := sys.leaveTo caller call rest } = sys.atDoor := by
  ext other
  constructor
  · rintro ⟨inner, known, here⟩
    rcases leaveTo_cases known with ⟨_, rfl⟩ | ⟨_, same⟩
    · exact absurd here after
    · exact ⟨inner, same, here⟩
  · rintro ⟨inner, known, here⟩
    have apart : other ≠ caller := by
      rintro rfl
      cases ongoing.symm.trans known
      exact before here
    exact ⟨inner, (Function.update_of_ne apart ..).trans known, here⟩

/-- What goes on within a section lowers the rank. -/
theorem rank_section {caller : CallerId} {call : OngoingCall} {event : Option SemEvent}
    {rest : CallRoutine PublicAnswer} {system : GraphSystem Sample}
    (held : sys.Held dds (some caller)) (ongoing : sys.calls caller = some call)
    (advanced : call.routine.advance sys.system.graph = some (event, rest, system.graph))
    (after : ¬ OngoingCall.AtDoor { call with routine := rest })
    (left : CallSystem.sectionLeft { system, calls := sys.leaveTo caller call rest } ≤
      rest.length system.graph) :
    Lower (CallSystem.rank { system, calls := sys.leaveTo caller call rest }) sys.rank := by
  obtain ⟨inner, same, inside⟩ := held.inside caller rfl
  cases ongoing.symm.trans same
  unfold CallSystem.rank
  rw [leaveTo_atDoor ongoing inside.notAtDoor after, held.sectionLeft_holder]
  refine .right _ (.left _ _ ?_)
  have one := Routine.length_advance advanced
  simp only [CallSystem.statementsLeft, ongoing, one]
  omega

theorem HeldEffect.rank (effect : HeldEffect dds convert sys holder step following later)
    (steady : sys.Steady dds holder) (quiet : step.quiet = true) :
    Lower following.rank sys.rank := by
  have held := steady.held
  have heldLater := effect.held held
  cases effect with
  | invoked => cases quiet
  | @took caller call rest ongoing whole routine free within =>
      refine .left _ _ (Set.ncard_lt_ncard ⟨?_, ?_⟩ (steady.finite.subset ?_))
      · rintro other ⟨inner, known, here⟩
        rcases leaveTo_cases known with ⟨_, rfl⟩ | ⟨_, same⟩
        · exact absurd here within.notAtDoor
        · exact ⟨inner, same, here⟩
      · intro all
        obtain ⟨inner, known, here⟩ := all ⟨call, ongoing, rest, routine⟩
        cases (Function.update_self ..).symm.trans known
        exact within.notAtDoor here
      · rintro other ⟨inner, known, _⟩
        simp [CallSystem.ongoing, known]
  | @computed caller call rest graph ongoing advanced within =>
      refine rank_section held ongoing advanced within.notAtDoor ?_
      rw [heldLater.sectionLeft_holder]
      simp [CallSystem.statementsLeft, leaveTo]
  | @queued caller call rest ongoing routine changes within =>
      refine rank_section held ongoing (by rw [routine]; rfl) within.notAtDoor ?_
      rw [heldLater.sectionLeft_holder]
      simp [CallSystem.statementsLeft, leaveTo]
  | @gave caller call value ongoing routine =>
      have returned : ¬ OngoingCall.AtDoor { call with routine := .done value } := by
        rintro ⟨rest, other⟩
        cases other
      refine rank_section held ongoing (by rw [routine]; rfl) returned ?_
      rw [heldLater.sectionLeft_nobody]
      exact Nat.zero_le _
  | @answered _ caller call value ongoing done waits =>
      have kept : ∀ other, other ≠ caller →
          Function.update sys.calls caller none other = sys.calls other :=
        fun other apart => Function.update_of_ne apart ..
      have door : atDoor { sys with calls := Function.update sys.calls caller none } =
          sys.atDoor := by
        ext other
        by_cases apart : other = caller
        · subst apart
          simp [atDoor, ongoing, OngoingCall.AtDoor, done]
        · simp [atDoor, kept other apart]
      have left : CallSystem.sectionLeft
          { sys with calls := Function.update sys.calls caller none } = sys.sectionLeft := by
        cases holder with
        | none => rw [held.sectionLeft_nobody, heldLater.sectionLeft_nobody]
        | some other =>
            have apart : other ≠ caller := by
              rintro rfl
              exact waits rfl
            rw [held.sectionLeft_holder, heldLater.sectionLeft_holder]
            simp [CallSystem.statementsLeft, kept other apart]
      have fewer : CallSystem.ongoing
          { sys with calls := Function.update sys.calls caller none } ⊂ sys.ongoing := by
        refine ⟨fun other begun => ?_, fun all => ?_⟩
        · by_cases apart : other = caller
          · subst apart
            simp [CallSystem.ongoing] at begun
          · simpa [CallSystem.ongoing, kept other apart] using begun
        · have gone := all (show caller ∈ sys.ongoing by simp [CallSystem.ongoing, ongoing])
          simp [CallSystem.ongoing] at gone
      unfold CallSystem.rank
      rw [door, left]
      refine .right _ (.right _ ?_)
      exact Nat.add_lt_add_left (Set.ncard_lt_ncard fewer steady.finite) _
  | @others _ step system foreign stepped =>
      simp only [CallStep.quiet, Bool.and_eq_true, Bool.not_eq_true'] at quiet
      have effect := GraphSystem.Steps.effect stepped
      have untouched : ∀ caller, holder = some caller → system.graph = sys.system.graph := by
        rintro caller rfl
        exact (stepped.besidesCalls foreign held.inStatements held.thread).2.2
          (held.mutex.mpr rfl)
      have nodes : system.graph.nodes.length = sys.system.graph.nodes.length := by
        cases holder with
        | none =>
            obtain ⟨_, registry⟩ := steady.reachable rfl
            exact effect.nodes quiet.1 registry.distinct
        | some caller => rw [untouched caller rfl]
      have left : CallSystem.sectionLeft { sys with system } = sys.sectionLeft := by
        cases holder with
        | none => rw [held.sectionLeft_nobody, heldLater.sectionLeft_nobody]
        | some caller =>
            rw [held.sectionLeft_holder, heldLater.sectionLeft_holder]
            simp [CallSystem.statementsLeft, untouched caller rfl]
      have one := effect.work quiet.1 nodes steady.inPlace
      simp only [GraphSystem.brings, quiet.2, Bool.false_eq_true, if_false] at one
      have less : system.work < sys.system.work := by omega
      unfold CallSystem.rank
      rw [left]
      exact .right _ (.right _ (Nat.add_lt_add_right less sys.ongoing.ncard))

theorem CallEffect.inPlace (effect : CallEffect dds convert sys step following)
    (inPlace : sys.system.InPlace) : following.system.InPlace := by
  obtain ⟨picked, exiting, exitGiven⟩ := inPlace
  cases effect with
  | invoked | computed | answered => exact ⟨picked, exiting, exitGiven⟩
  | @signalled caller call event rest system ongoing routine signals =>
      cases event with
      | takeMutexSelf =>
          obtain ⟨_, done⟩ := Option.ite_none_right_eq_some.mp signals
          cases done
          exact ⟨picked, exiting, exitGiven⟩
      | giveMutexSelf | giveSemPinfo =>
          cases signals
          exact ⟨picked, exiting, exitGiven⟩
  | others foreign stepped =>
      exact (GraphSystem.Steps.effect stepped).inPlace ⟨picked, exiting, exitGiven⟩

theorem CallEffect.finite (effect : CallEffect dds convert sys step following)
    (finite : sys.ongoing.Finite) : following.ongoing.Finite := by
  have updated : ∀ caller call, {other | Function.update sys.calls caller call other ≠ none} ⊆
      insert caller sys.ongoing := by
    intro caller call other begun
    by_cases same : other = caller
    · exact .inl same
    · exact .inr fun none => begun ((Function.update_of_ne same ..).trans none)
  cases effect with
  | invoked | computed | signalled | answered => exact (finite.insert _).subset (updated _ _)
  | others => exact finite

namespace CallSystem

/-- When no call has the mutex, the registry is one that whole calls lead to. -/
theorem RunFrom.steady (run : RunFrom dds convert start past sys) (initial : start.IsInitial) :
    ∃ holder, sys.Steady dds holder := by
  obtain ⟨holder, held, replayed⟩ := run.simulated initial
  have known : sys.system.InPlace ∧ sys.ongoing.Finite := by
    refine @Execution.always _ _ _ _ (fun state => state.system.InPlace ∧ state.ongoing.Finite)
      ?_ ?_ _ _ run
    · rintro state rfl
      have begun : GraphSystem.Run dds convert [] state.system := .start initial.1
      exact ⟨begun.inPlace, by simp [ongoing, initial.2]⟩
    · intro state step next held stepped
      have effect := Steps.effect stepped
      exact ⟨effect.inPlace held.1, effect.finite held.2⟩
  refine ⟨holder, held, ?_, known.1, known.2⟩
  rintro rfl
  obtain ⟨visits, onward, _⟩ := GraphSystem.RunFrom.ofReplay (Option.isSome_of_eq_some replayed)
  have begun : GraphSystem.Run dds convert [] start.system := .start initial.1
  have whole := begun.append onward
  rw [GraphSystem.after, replayed] at whole
  exact GraphSystem.Run.graph whole

theorem Halted.blocked (halted : sys.Halted dds convert) (quiet : step.quiet = true) :
    sys.next dds convert step = none := by
  by_contra goes
  obtain ⟨following, stepped⟩ := Option.ne_none_iff_exists'.mp goes
  exact halted step following quiet stepped

/-- With the mutex free, no call is left that cannot go on. -/
theorem Steady.returned (steady : sys.Steady dds none) (free : sys.system.mutexSelf = .nobody)
    (halted : sys.Halted dds convert) (caller : CallerId) : sys.calls caller = none := by
  by_contra begun
  obtain ⟨call, ongoing⟩ := Option.ne_none_iff_exists'.mp begun
  have answers : ∀ value, call.routine ≠ .done value := by
    intro value done
    obtain ⟨request, env, routine⟩ := call
    dsimp only at done
    subst done
    have blocked := halted.blocked (show (CallStep.answer caller value).quiet = true from rfl)
    simp [next, ongoing] at blocked
  rcases steady.held.outside caller call ongoing (by simp) with whole | ⟨value, done⟩
  · have disciplined := call.request.routine_disciplined dds call.env
    rw [← whole] at disciplined
    generalize routine : call.routine = begun at disciplined
    cases disciplined with
    | done => exact answers _ routine
    | take =>
        have blocked := halted.blocked (show (CallStep.advance caller).quiet = true from rfl)
        simp [next, ongoing, routine, Routine.advance, GraphSystem.signal, free] at blocked
  · exact answers value done

/-- Where nobody has a step, the mutex is free. -/
theorem Steady.free (steady : sys.Steady dds holder) (returns : convert.CanReturn dds)
    (halted : sys.Halted dds convert) :
    holder = none ∧ sys.system.mutexSelf = .nobody ∧ sys.system.Waits := by
  have nobodyInside : holder = none := by
    cases holder with
    | none => rfl
    | some caller =>
        obtain ⟨call, event, rest, graph, ongoing, advanced, notTake⟩ :=
          steady.held.inSection_holder
        have blocked := halted.blocked (show (CallStep.advance caller).quiet = true from rfl)
        match event with
        | none => simp [next, ongoing, advanced] at blocked
        | some .takeMutexSelf => exact absurd rfl notTake
        | some .giveMutexSelf => simp [next, ongoing, advanced, GraphSystem.signal] at blocked
        | some .giveSemPinfo => simp [next, ongoing, advanced, GraphSystem.signal] at blocked
  subst nobodyInside
  have notEntered : sys.system.mutexSelf ≠ .entered := fun entered => by
    cases steady.held.mutex.mp entered
  have waits : sys.system.Waits := by
    by_contra moving
    have outside : ¬ sys.system.CallerInside := by
      rintro (entered | ⟨events, leaving⟩)
      · exact notEntered entered
      · exact steady.held.inStatements events leaving
    obtain ⟨step, system, thread, waits, _, stepped⟩ := @GraphSystem.InPlace.canStep _ _ dds
      convert _ steady.inPlace steady.held.thread returns (steady.reachable rfl) outside moving
    have foreign : step.ofCall = false := by
      cases step with
      | enter | perform | leave => cases thread
      | _ => rfl
    have quiet : (CallStep.other step).quiet = true := by simp [CallStep.quiet, thread, waits]
    have blocked := halted.blocked quiet
    simp [next, foreign, stepped.1] at blocked
  refine ⟨rfl, ?_, waits⟩
  have elsewhere : sys.system.pc.holdsMutex = false := by
    rcases waits with ⟨here, _⟩ | here <;> rw [here] <;> rfl
  cases has : sys.system.mutexSelf with
  | nobody => rfl
  | updateThread =>
      rw [steady.held.thread.mp has] at elsewhere
      cases elsewhere
  | entered => exact absurd has notEntered
  | leaving events => exact absurd has (steady.held.inStatements events)

theorem quiet_descends (dds : Dds) (convert : ConvertToSampleFn Sample Answers)
    (initial : start.IsInitial) :
    Execution.Descends Lower (Steps dds convert) (fun _ step => step.quiet = true)
      (fun state => ∃ past, RunFrom dds convert start past state) rank where
  kept := by
    rintro state step next ⟨past, run⟩ _ stepped
    exact ⟨_, run.extend stepped⟩
  falls := by
    rintro state step next ⟨past, run⟩ quiet stepped
    obtain ⟨holder, steady⟩ := run.steady initial
    obtain ⟨later, effect⟩ := (Steps.effect stepped).refine steady.held
    exact effect.rank steady quiet

end CallSystem

/-- Every call returns. From any state, however the statements of the callers and of the update
thread interleave, they do not go on for ever without a new call or a time-out, and where none
of them has a step left every call has returned, the mutex is free and the update thread
waits for a permit or has ended. -/
theorem every_call_returns (run : CallSystem.RunFrom dds convert start past sys)
    (initial : start.IsInitial) (returns : convert.CanReturn dds) :
    (∀ (states : ℕ → CallSystem Sample) (steps : ℕ → CallStep Answers), states 0 = sys →
      ¬ ∀ n, (steps n).quiet = true ∧ (states n).Steps dds convert (steps n) (states (n + 1))) ∧
    (∀ visits last, CallSystem.RunFrom dds convert sys visits last → last.Halted dds convert →
      (∀ caller, last.calls caller = none) ∧ last.system.mutexSelf = .nobody ∧
        last.system.Waits) ∧
    ∃ visits last, CallSystem.RunFrom dds convert sys visits last ∧
      (∀ visit ∈ visits, visit.2.quiet = true) ∧ last.Halted dds convert := by
  have descends := quiet_descends dds convert initial
  refine ⟨fun states steps same => ?_, fun visits last onward halted => ?_, ?_⟩
  · subst same
    exact descends.no_infinite lower_wellFounded ⟨past, run⟩
  · obtain ⟨holder, steady⟩ := RunFrom.steady (run.append onward) initial
    obtain ⟨rfl, free, waits⟩ := steady.free returns halted
    exact ⟨steady.returned free halted, free, waits⟩
  · exact descends.exists_stuck lower_wellFounded ⟨past, run⟩

end

/-! A caller of a C++ graph is in the middle of its section. -/

def cppSectionRun : List (CallSystem CppPinfo × CallStep CppSampleEnv) × CallSystem CppPinfo :=
  (CallSystem.started Duration.infinite ⟨some default, default⟩).runOf clientsDds
    (cppGraphSampleAdapter clientsDds)
    ([.invoke 0 (.granting (.answering [] [])) (.perform registration), .other .testActive] ++
      List.replicate 7 (.advance 0))

theorem every_call_returns_section :
    cppSectionRun.2.system.mutexSelf = .entered ∧
    (∀ (states : ℕ → CallSystem CppPinfo) (steps : ℕ → CallStep CppSampleEnv),
      states 0 = cppSectionRun.2 →
      ¬ ∀ n, (steps n).quiet = true ∧ (states n).Steps clientsDds
        (cppGraphSampleAdapter clientsDds) (steps n) (states (n + 1))) ∧
    (∀ visits last, CallSystem.RunFrom clientsDds (cppGraphSampleAdapter clientsDds)
        cppSectionRun.2 visits last →
      last.Halted clientsDds (cppGraphSampleAdapter clientsDds) →
      (∀ caller, last.calls caller = none) ∧ last.system.mutexSelf = .nobody ∧
        last.system.Waits) ∧
    ∃ visits last, CallSystem.RunFrom clientsDds (cppGraphSampleAdapter clientsDds)
        cppSectionRun.2 visits last ∧
      (∀ visit ∈ visits, visit.2.quiet = true) ∧
      last.Halted clientsDds (cppGraphSampleAdapter clientsDds) := by
  have run : CallSystem.RunFrom clientsDds (cppGraphSampleAdapter clientsDds)
      (.started Duration.infinite ⟨some default, default⟩) cppSectionRun.1 cppSectionRun.2 :=
    .ofReplay rfl
  exact ⟨rfl, every_call_returns run (CallSystem.started_initial _ _)
    (cppGraphSampleAdapter_canReturn clientsDds)⟩

end Ros2Graph
