import Ros2Graph.Calls.System

/-! The caller that has `mutex_self`: only that one loads and stores the registry, and
a call that answers questions finds the registry and leaves it the same. -/

set_option autoImplicit false

namespace Ros2Graph

open Foundation

/-- The request may change the registry. -/
def Request.changes : Request → Bool
  | .perform _ => true
  | _ => false

/-- A request that changes nothing only takes and gives the mutex. -/
theorem Request.outcome_reading {request : Request} (reads : request.changes = false)
    (dds : Dds) (env : CallEnv) (graph : Graph) :
    (request.outcome dds env graph).graph = graph ∧
      ((request.outcome dds env graph).events = [] ∨
        (request.outcome dds env graph).events = [.takeMutexSelf, .giveMutexSelf]) := by
  cases request with
  | perform => cases reads
  | getNodeName node nameOut namespaceOut =>
      simp only [outcome]
      split
      · exact ⟨rfl, .inl rfl⟩
      · exact ⟨rfl, .inr rfl⟩
  | getNodeParticipant | getEndpointReader | getEndpointWriter | getEndpointType =>
      exact ⟨rfl, .inr rfl⟩

namespace OngoingCall

def Outside (dds : Dds) (call : OngoingCall) : Prop :=
  call.routine = call.request.routine dds call.env ∨ ∃ value, call.routine = .done value

structure Inside (call : OngoingCall) (graph : Graph) : Prop where
  locked : call.routine.Inside .takeMutexSelf .giveMutexSelf
  reading : call.request.changes = false →
    (call.routine.run graph).events = [.giveMutexSelf]

/-- What one statement can do outside. -/
theorem Outside.advance {dds : Dds} {call : OngoingCall} {graph later : Graph}
    {event : Option SemEvent} {rest : CallRoutine PublicAnswer} (outside : call.Outside dds)
    (advanced : call.routine.advance graph = some (event, rest, later)) :
    call.routine = call.request.routine dds call.env ∧ event = some .takeMutexSelf ∧
      call.routine = .signal .takeMutexSelf rest ∧
      rest.Inside .takeMutexSelf .giveMutexSelf := by
  rcases outside with whole | ⟨value, done⟩
  · have disciplined := call.request.routine_disciplined dds call.env
    rw [← whole] at disciplined
    generalize routine : call.routine = begun at disciplined advanced
    cases disciplined with
    | done => cases advanced
    | take inside =>
        cases advanced
        exact ⟨routine.symm.trans whole, rfl, rfl, inside⟩
  · rw [done] at advanced
    cases advanced

/-- From the take of the mutex on, the call does all that is asked of it. -/
theorem taken {dds : Dds} {call : OngoingCall} {rest : CallRoutine PublicAnswer}
    (whole : call.routine = call.request.routine dds call.env)
    (takes : call.routine = .signal .takeMutexSelf rest) (graph : Graph) :
    call.request.outcome dds call.env graph =
      ⟨(rest.run graph).memory, (rest.run graph).result,
        .takeMutexSelf :: (rest.run graph).events⟩ := by
  have yields := call.request.routine_yields dds call.env graph
  unfold CallRoutine.Yields at yields
  rw [← whole, takes] at yields
  simp only [Routine.run, Ran.mk.injEq] at yields
  obtain ⟨memory, result, events⟩ := yields
  rw [memory, result, events]

/-- The call that has just taken the mutex. -/
theorem Inside.begun {dds : Dds} {call : OngoingCall} {rest : CallRoutine PublicAnswer}
    (whole : call.routine = call.request.routine dds call.env)
    (takes : call.routine = .signal .takeMutexSelf rest)
    (locked : rest.Inside .takeMutexSelf .giveMutexSelf) (graph : Graph) :
    Inside { call with routine := rest } graph := by
  refine ⟨locked, fun reads => ?_⟩
  have both := (Request.outcome_reading reads dds call.env graph).2
  rw [taken whole takes graph] at both
  simpa using both

/-- What one statement can do under the mutex. -/
theorem Inside.advance {call : OngoingCall} {graph later : Graph} {event : Option SemEvent}
    {rest : CallRoutine PublicAnswer} (inside : call.Inside graph)
    (advanced : call.routine.advance graph = some (event, rest, later)) :
    (event = some .giveMutexSelf ∧ ∃ value, rest = .done value) ∨
      (Inside { call with routine := rest } later ∧
        (event = none ∨ (event = some .giveSemPinfo ∧ call.request.changes = true))) := by
  have ran := Routine.run_advance advanced
  rcases inside.locked.advance advanced with ⟨given, _, done⟩ | ⟨notTake, notGive, onwards⟩
  · exact .inl ⟨given, done⟩
  · refine .inr ?_
    have reading := inside.reading
    rw [ran] at reading
    match event with
    | none => exact ⟨⟨onwards, reading⟩, .inl rfl⟩
    | some .takeMutexSelf => exact absurd rfl notTake
    | some .giveMutexSelf => exact absurd rfl notGive
    | some .giveSemPinfo =>
        have changes : call.request.changes = true := by
          by_contra reads
          cases reading (by simpa using reads)
        exact ⟨⟨onwards, by simp [changes]⟩, .inr ⟨rfl, changes⟩⟩

end OngoingCall

/-- Who has the mutex, among the calls: that call is inside, the others are outside. -/
structure CallSystem.Held {Sample : Type} (dds : Dds) (sys : CallSystem Sample)
    (holder : Option CallerId) : Prop where
  inside : ∀ caller, holder = some caller →
    ∃ call, sys.calls caller = some call ∧ call.Inside sys.system.graph
  outside : ∀ caller call, sys.calls caller = some call → holder ≠ some caller →
    call.Outside dds
  mutex : sys.system.mutexSelf = .entered ↔ holder.isSome = true
  inStatements : ∀ events, sys.system.mutexSelf ≠ .leaving events
  thread : sys.system.Excluded

open CallSystem in
/-- What one step does, by who has the mutex before it and after it. -/
inductive HeldEffect {Sample Answers : Type} (dds : Dds)
    (convert : ConvertToSampleFn Sample Answers) (sys : CallSystem Sample) :
    Option CallerId → CallStep Answers → CallSystem Sample → Option CallerId → Prop where
  | invoked {holder caller env request} : sys.calls caller = none →
      HeldEffect dds convert sys holder (.invoke caller env request)
        { sys with
          calls := Function.update sys.calls caller
            (some { request, env, routine := request.routine dds env }) } holder
  | took {caller call rest} : sys.calls caller = some call →
      call.routine = call.request.routine dds call.env →
      call.routine = .signal .takeMutexSelf rest → sys.system.mutexSelf = .nobody →
      OngoingCall.Inside { call with routine := rest } sys.system.graph →
      HeldEffect dds convert sys none (.advance caller)
        { system := { sys.system with mutexSelf := .entered }
          calls := sys.leaveTo caller call rest } (some caller)
  | computed {caller call rest graph} : sys.calls caller = some call →
      call.routine.advance sys.system.graph = some (none, rest, graph) →
      OngoingCall.Inside { call with routine := rest } graph →
      HeldEffect dds convert sys (some caller) (.advance caller)
        { system := { sys.system with graph }, calls := sys.leaveTo caller call rest }
        (some caller)
  | queued {caller call rest} : sys.calls caller = some call →
      call.routine = .signal .giveSemPinfo rest → call.request.changes = true →
      OngoingCall.Inside { call with routine := rest } sys.system.graph →
      HeldEffect dds convert sys (some caller) (.advance caller)
        { system := { sys.system with semPinfo := sys.system.semPinfo + 1 }
          calls := sys.leaveTo caller call rest } (some caller)
  | gave {caller call value} : sys.calls caller = some call →
      call.routine = .signal .giveMutexSelf (.done value) →
      HeldEffect dds convert sys (some caller) (.advance caller)
        { system := { sys.system with mutexSelf := .nobody }
          calls := sys.leaveTo caller call (.done value) } none
  | answered {holder caller call value} : sys.calls caller = some call →
      call.routine = .done value → holder ≠ some caller →
      HeldEffect dds convert sys holder (.answer caller value)
        { sys with calls := Function.update sys.calls caller none } holder
  | others {holder step system} : step.ofCall = false →
      sys.system.Steps dds convert step system →
      HeldEffect dds convert sys holder (.other step) { sys with system } holder

section

open CallSystem

variable {Sample Answers : Type} {dds : Dds} {convert : ConvertToSampleFn Sample Answers}
  {sys following : CallSystem Sample} {step : CallStep Answers} {holder later : Option CallerId}

/-- A call is the one that has gone on to its next statement, or as it was. -/
theorem CallSystem.leaveTo_cases {caller other : CallerId} {call otherCall : OngoingCall}
    {rest : CallRoutine PublicAnswer}
    (ongoing : sys.leaveTo caller call rest other = some otherCall) :
    (other = caller ∧ otherCall = { call with routine := rest }) ∨
      (other ≠ caller ∧ sys.calls other = some otherCall) := by
  by_cases same : other = caller
  · subst same
    cases (Function.update_self ..).symm.trans ongoing
    exact .inl ⟨rfl, rfl⟩
  · exact .inr ⟨same, (Function.update_of_ne same ..).symm.trans ongoing⟩

/-- A caller at a statement that is not the take of the mutex has the mutex. -/
theorem CallSystem.Held.ofAdvance (held : sys.Held dds holder) {caller : CallerId}
    {call : OngoingCall} (ongoing : sys.calls caller = some call) {graph : Graph}
    {event : Option SemEvent} {rest : CallRoutine PublicAnswer}
    (advanced : call.routine.advance sys.system.graph = some (event, rest, graph))
    (notTake : event ≠ some .takeMutexSelf) :
    holder = some caller ∧ call.Inside sys.system.graph := by
  have has : holder = some caller := by
    by_contra waits
    exact notTake ((held.outside caller call ongoing waits).advance advanced).2.1
  obtain ⟨inner, same, inside⟩ := held.inside caller has
  cases ongoing.symm.trans same
  exact ⟨has, inside⟩

theorem CallEffect.refine (effect : CallEffect dds convert sys step following)
    (held : sys.Held dds holder) :
    ∃ later, HeldEffect dds convert sys holder step following later := by
  cases effect with
  | invoked idle => exact ⟨holder, .invoked idle⟩
  | @computed caller call rest graph ongoing advanced =>
      obtain ⟨rfl, inside⟩ := held.ofAdvance ongoing advanced (by simp)
      rcases inside.advance advanced with ⟨given, _⟩ | ⟨onwards, _⟩
      · cases given
      · exact ⟨_, .computed ongoing advanced onwards⟩
  | @signalled caller call event rest system ongoing routine signals =>
      have advanced : call.routine.advance sys.system.graph =
          some (some event, rest, sys.system.graph) := by rw [routine]; rfl
      cases event with
      | takeMutexSelf =>
          obtain ⟨free, done⟩ := Option.ite_none_right_eq_some.mp signals
          cases done
          cases holder with
          | some other =>
              have entered := held.mutex.mpr rfl
              cases entered.symm.trans free
          | none =>
              have outside := held.outside caller call ongoing (by simp)
              obtain ⟨whole, _, _, locked⟩ := outside.advance advanced
              exact ⟨_, .took ongoing whole routine free (.begun whole routine locked _)⟩
      | giveMutexSelf =>
          obtain ⟨rfl, inside⟩ := held.ofAdvance ongoing advanced (by simp)
          cases signals
          rcases inside.advance advanced with ⟨_, value, rfl⟩ | ⟨_, none | queue⟩
          · exact ⟨_, .gave ongoing routine⟩
          · cases none
          · cases queue.1
      | giveSemPinfo =>
          obtain ⟨rfl, inside⟩ := held.ofAdvance ongoing advanced (by simp)
          cases signals
          rcases inside.advance advanced with ⟨given, _⟩ | ⟨onwards, none | queue⟩
          · cases given
          · cases none
          · exact ⟨_, .queued ongoing routine queue.2 onwards⟩
  | @answered caller call value ongoing done =>
      refine ⟨holder, .answered ongoing done ?_⟩
      intro has
      obtain ⟨inner, same, inside⟩ := held.inside caller has
      cases ongoing.symm.trans same
      have locked := inside.locked
      rw [done] at locked
      cases locked
  | others foreign stepped => exact ⟨holder, .others foreign stepped⟩

/-- While a call has the mutex the update thread does not. -/
theorem GraphSystem.Excluded.besideCall {system : GraphSystem Sample} (excluded : system.Excluded)
    (entered : system.mutexSelf = .entered) : system.pc.holdsMutex = false := by
  by_contra holds
  have thread := excluded.mpr (by simpa using holds)
  cases entered.symm.trans thread

/-- The other steps neither take nor give the mutex for a call, and leave the registry
alone while a call has it. -/
theorem GraphSystem.Steps.besidesCalls {system next : GraphSystem Sample} {step : Step Answers}
    (stepped : system.Steps dds convert step next) (foreign : step.ofCall = false)
    (inStatements : ∀ events, system.mutexSelf ≠ .leaving events) (excluded : system.Excluded) :
    (next.mutexSelf = .entered ↔ system.mutexSelf = .entered) ∧
      (∀ events, next.mutexSelf ≠ .leaving events) ∧
      (system.mutexSelf = .entered → next.graph = system.graph) := by
  have effect := GraphSystem.Steps.effect stepped
  have holds : system.pc.holdsMutex = true → system.mutexSelf = .updateThread := excluded.mpr
  cases effect <;> simp_all [ThreadPc.holdsMutex, Step.ofCall]

/-- The other calls stay outside when one caller goes on to its next statement. -/
theorem CallSystem.Held.others (held : sys.Held dds holder) {caller other : CallerId}
    {otherCall : OngoingCall} (known : holder = none ∨ holder = some caller)
    (ongoing : sys.calls other = some otherCall) (apart : other ≠ caller) :
    otherCall.Outside dds := by
  refine held.outside other otherCall ongoing ?_
  rcases known with rfl | rfl
  · simp
  · simpa using apart.symm

theorem HeldEffect.held (effect : HeldEffect dds convert sys holder step following later)
    (held : sys.Held dds holder) : following.Held dds later := by
  have ⟨inside, outside, mutex, inStatements, thread⟩ := held
  cases effect with
  | @invoked _ caller env request idle =>
      refine ⟨fun other has => ?_, fun other call ongoing waits => ?_, mutex, inStatements, thread⟩
      · obtain ⟨call, ongoing, within⟩ := inside other has
        have apart : other ≠ caller := by
          rintro rfl
          cases idle.symm.trans ongoing
        exact ⟨call, (Function.update_of_ne apart ..).trans ongoing, within⟩
      · by_cases same : other = caller
        · subst same
          cases (Function.update_self ..).symm.trans ongoing
          exact .inl rfl
        · exact outside other call ((Function.update_of_ne same ..).symm.trans ongoing) waits
  | @took caller call rest ongoing whole routine free within =>
      refine ⟨fun other has => ?_, fun other otherCall ongoing waits => ?_, by simp, by simp, ?_⟩
      · cases has
        exact ⟨_, Function.update_self .., within⟩
      · rcases leaveTo_cases ongoing with ⟨rfl, _⟩ | ⟨apart, same⟩
        · exact absurd rfl waits
        · exact held.others (.inl rfl) same apart
      · simpa [GraphSystem.Excluded, free] using thread
  | @computed caller call rest graph ongoing advanced within =>
      refine ⟨fun other has => ?_, fun other otherCall ongoing waits => ?_, mutex, inStatements,
        thread⟩
      · cases has
        exact ⟨_, Function.update_self .., within⟩
      · rcases leaveTo_cases ongoing with ⟨rfl, _⟩ | ⟨apart, same⟩
        · exact absurd rfl waits
        · exact held.others (.inr rfl) same apart
  | @queued caller call rest ongoing routine changes within =>
      refine ⟨fun other has => ?_, fun other otherCall ongoing waits => ?_, mutex, inStatements,
        thread⟩
      · cases has
        exact ⟨_, Function.update_self .., within⟩
      · rcases leaveTo_cases ongoing with ⟨rfl, _⟩ | ⟨apart, same⟩
        · exact absurd rfl waits
        · exact held.others (.inr rfl) same apart
  | @gave caller call value ongoing routine =>
      refine ⟨fun other has => (by cases has), fun other otherCall ongoing waits => ?_, by simp,
        by simp, ?_⟩
      · rcases leaveTo_cases ongoing with ⟨rfl, rfl⟩ | ⟨apart, same⟩
        · exact .inr ⟨value, rfl⟩
        · exact held.others (.inr rfl) same apart
      · have entered := mutex.mpr rfl
        simpa [GraphSystem.Excluded, entered] using thread
  | @answered _ caller call value ongoing done waits =>
      refine ⟨fun other has => ?_, fun other otherCall ongoing waiting => ?_, mutex, inStatements,
        thread⟩
      · obtain ⟨inner, same, within⟩ := inside other has
        have apart : other ≠ caller := by
          rintro rfl
          exact waits has
        exact ⟨inner, (Function.update_of_ne apart ..).trans same, within⟩
      · have apart : other ≠ caller := by
          rintro rfl
          cases (Function.update_self ..).symm.trans ongoing
        exact outside other otherCall ((Function.update_of_ne apart ..).symm.trans ongoing) waiting
  | others foreign stepped =>
      obtain ⟨same, still, kept⟩ := stepped.besidesCalls foreign inStatements thread
      refine ⟨fun other has => ?_, outside, same.trans mutex, still,
        GraphSystem.Steps.excluded thread stepped⟩
      obtain ⟨call, ongoing, within⟩ := inside other has
      have untouched := kept (mutex.mpr (by rw [has]; rfl))
      exact ⟨call, ongoing, by rw [untouched]; exact within⟩

namespace CallSystem

variable {start : CallSystem Sample} {past : List (CallSystem Sample × CallStep Answers)}

theorem IsInitial.held (initial : start.IsInitial) : start.Held dds none := by
  obtain ⟨⟨graph, participants, pinfo, _, same⟩, idle⟩ := initial
  refine ⟨by simp, by simp [idle], by simp [same, GraphSystem.initial],
    by simp [same, GraphSystem.initial], ?_⟩
  simp [same, GraphSystem.initial, GraphSystem.Excluded, ThreadPc.holdsMutex]

theorem RunFrom.held (run : RunFrom dds convert start past sys) (initial : start.IsInitial) :
    ∃ holder, sys.Held dds holder := by
  refine @Execution.always _ _ _ _ (fun state => ∃ holder, state.Held dds holder) ?_ ?_ _ _ run
  · intro state same
    exact ⟨none, same ▸ initial.held⟩
  · intro state step next held stepped
    obtain ⟨holder, held⟩ := held
    obtain ⟨later, effect⟩ := (Steps.effect stepped).refine held
    exact ⟨later, effect.held held⟩

end CallSystem

end

end Ros2Graph
