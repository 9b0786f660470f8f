import Ros2Graph.Calls.Linearization
import Ros2Graph.Directory.Refinement

/-! The calls of all callers are those of one directory: the order in which they take
`mutex_self` is the order in which they happen to it. -/

set_option autoImplicit false

namespace Ros2Graph

open Foundation

namespace Graph

variable {dds : Dds}

theorem history_append (graph : Graph) (front rest : List Event) :
    graph.history dds (front ++ rest) =
      graph.history dds front ++ (graph.after dds front).history dds rest := by
  induction front generalizing graph with
  | nil => rfl
  | cons event front ih =>
      simp only [List.cons_append, history, ih]
      rfl

theorem history_length (graph : Graph) (events : List Event) :
    (graph.history dds events).length = events.length := by
  induction events generalizing graph with
  | nil => rfl
  | cons event rest ih => simp [history, ih]

theorem history_event (graph : Graph) (front rest : List Event) (event : Event) :
    (graph.history dds (front ++ event :: rest))[front.length]? =
      some (graph.after dds front, event) := by
  rw [history_append, List.getElem?_append_right (by rw [history_length]), history_length]
  simp [history]

/-- The graph that the first events of a history leave. -/
theorem history_states (graph : Graph) (front rest : List Event) :
    (Execution.states (graph.history dds (front ++ rest))
      (graph.after dds (front ++ rest)))[front.length]? = some (graph.after dds front) := by
  cases rest with
  | nil => simp [Execution.states, history_length]
  | cons event rest => exact Execution.states_getElem? _ (history_event graph front rest event)

end Graph

/-- The answer of a call is that of the directory at one position of its run. -/
def AnsweredAt (records : List (Directory × Occurrence)) (directory : Directory) (position : Nat)
    (request : Request) (value : PublicAnswer) : Prop :=
  ∃ now, (Execution.states records directory)[position]? = some now ∧
    match request with
    | .perform operation => ∃ answer, value = .answer answer ∧
        records[position]? = some (now, .answered operation answer)
    | question => now.answer question = some value

/-- The directory that goes with what becomes of a graph by some events. -/
abbrev Directory.Accompanies (dds : Dds) (graph : Graph) (events : List Event)
    (records : List (Directory × Occurrence)) (directory : Directory) : Prop :=
  Execution.Simulated (fun graph directory => directory.Describes graph)
    (fun graph event => event.occurrence dds graph) (graph.history dds events)
    (graph.after dds events) records directory

section

variable {dds : Dds} {graph : Graph} {records : List (Directory × Occurrence)}
  {directory : Directory} {front : List Event}

theorem Directory.Accompanies.performed {rest : List Event} {env : CallEnv} {operation : Operation}
    (accompanies :
      directory.Accompanies dds graph (front ++ .call env operation :: rest) records) :
    AnsweredAt records directory front.length (.perform operation)
      (Request.outcome dds env (graph.after dds front) (.perform operation)).result := by
  obtain ⟨⟨now, occurrence⟩, recorded, _, shown⟩ :=
    Execution.forall₂_getElem? accompanies.visits (Graph.history_event graph front rest _)
  cases shown
  exact ⟨now, Execution.states_getElem? directory recorded, _, rfl, recorded⟩

theorem Directory.Accompanies.questioned {rest : List Event} {env : CallEnv} {request : Request}
    (question : ∀ operation, request ≠ .perform operation)
    (accompanies : directory.Accompanies dds graph (front ++ rest) records) :
    AnsweredAt records directory front.length request
      (request.outcome dds env (graph.after dds front)).result := by
  obtain ⟨now, present, describes⟩ :=
    Execution.forall₂_getElem? accompanies.states (Graph.history_states graph front rest)
  refine ⟨now, present, ?_⟩
  cases request with
  | perform operation => exact absurd rfl (question operation)
  | _ => exact congrArg some (describes.answers dds env rfl).symm

end

section

variable {Sample Answers : Type} {dds : Dds} {convert : ConvertToSampleFn Sample Answers}
  {sys start : CallSystem Sample} {past front : List (CallSystem Sample × CallStep Answers)}
  {records : List (Directory × Occurrence)} {directory : Directory}

/-- The directory answers the call where the call takes the mutex. -/
structure AnsweredWithin (records : List (Directory × Occurrence)) (directory : Directory)
    (before : List (CallSystem Sample × CallStep Answers)) (instant : CallSystem Sample)
    (between : List (CallSystem Sample × CallStep Answers)) (caller : CallerId) (call : OngoingCall)
    (value : PublicAnswer) : Prop where
  ongoing : instant.calls caller ≠ none
  quiet : ∀ visit ∈ between, visit.2.invokes caller = false
  answered : AnsweredAt records directory (CallSystem.serialHistory before).length call.request value

theorem CallSystem.serialHistory_append (front rest : List (CallSystem Sample × CallStep Answers)) :
    serialHistory (front ++ rest) = serialHistory front ++ serialHistory rest :=
  List.filterMap_append

theorem TakesEffect.answeredWithin {caller : CallerId} {call : OngoingCall} {value : PublicAnswer}
    {rest : List (CallSystem Sample × CallStep Answers)}
    (point : TakesEffect dds start front caller call value)
    (accompanies : directory.Accompanies dds start.system.graph
      (CallSystem.serialHistory (front ++ rest)) records) :
    ∃ before instant between, front = before ++ (instant, .advance caller) :: between ∧
      AnsweredWithin records directory before instant between caller call value := by
  obtain ⟨before, instant, between, routine, rfl, quiet, ongoing, free, registry, answer⟩ := point
  refine ⟨before, instant, between, rfl, by simp [ongoing], quiet, ?_⟩
  rw [answer, registry]
  rw [List.append_assoc, CallSystem.serialHistory_append] at accompanies
  obtain ⟨request, env, left⟩ := call
  cases request with
  | perform operation =>
      have taken : instant.serialEvent (.advance caller : CallStep Answers) =
          some (.call env operation) := by
        simp [CallSystem.serialEvent, ongoing]
      have order : CallSystem.serialHistory ((instant, .advance caller) :: between ++ rest) =
          .call env operation :: CallSystem.serialHistory (between ++ rest) :=
        List.filterMap_cons_some taken
      rw [order] at accompanies
      exact accompanies.performed
  | _ => exact accompanies.questioned (by simp)

theorem CallSystem.IsInitial.accompanied (initial : start.IsInitial)
    (past : List (CallSystem Sample × CallStep Answers)) :
    ∃ records directory,
      Directory.Run dds start.system.graph.graphParticipant records directory ∧
        directory.Accompanies dds start.system.graph (CallSystem.serialHistory past) records := by
  obtain ⟨⟨graph, _, _, ⟨participant, period, rfl⟩, same⟩, _⟩ := initial
  have started : start.system.graph = Graph.initial participant period := by rw [same]; rfl
  rw [started]
  exact Graph.fromInitial_directory (@Graph.Run.history dds
    (fun first => first = Graph.initial participant period) [] _ (.start rfl)
    (CallSystem.serialHistory past))

/-- Any number of callers share one directory, whatever way their statements interleave: the
calls that return have the answers of the directory, each at one position of its run, which the
call reaches between its invocation and its return. Others have been refused their arguments. -/
theorem calls_implement_directory
    (run : CallSystem.RunFrom dds convert start past sys) (initial : start.IsInitial) :
    ∃ records directory,
      Directory.Run dds start.system.graph.graphParticipant records directory ∧
      (sys.system.mutexSelf ≠ .entered → sys.system.graph.AnswersAs dds directory) ∧
      ∀ front state caller value rest, past = front ++ (state, .answer caller value) :: rest →
        ∃ call, state.calls caller = some call ∧
          ((∃ before instant between, front = before ++ (instant, .advance caller) :: between ∧
              AnsweredWithin records directory before instant between caller call value) ∨
            ∀ graph, call.request.outcome dds call.env graph = ⟨graph, value, []⟩) := by
  obtain ⟨records, directory, reached, accompanies⟩ := initial.accompanied past
  refine ⟨records, directory, reached, fun free => ?_, ?_⟩
  · obtain ⟨holder, ordered⟩ := run.ordered initial
    cases holder with
    | some caller => exact absurd (ordered.held.mutex.mpr rfl) free
    | none =>
        have registry : sys.system.graph = _ := ordered.registry
        rw [registry]
        exact fun env request value => accompanies.last.answers dds env
  · intro front state caller value rest split
    subst split
    obtain ⟨before, next, stepped, _⟩ := run.split
    obtain ⟨call, ongoing, point | refused⟩ := CallSystem.RunFrom.answered before initial stepped
    · exact ⟨call, ongoing, .inl (point.answeredWithin accompanies)⟩
    · exact ⟨call, ongoing, .inr refused⟩

end

theorem calls_implement_directory_racing :
    ∃ records directory, Directory.Run clientsDds ⟨0⟩ records directory ∧
      racingRun.2.system.graph.AnswersAs clientsDds directory ∧
      ∀ front state caller value rest, racingRun.1 = front ++ (state, .answer caller value) :: rest →
        ∃ call, state.calls caller = some call ∧
          ((∃ before instant between, front = before ++ (instant, .advance caller) :: between ∧
              AnsweredWithin records directory before instant between caller call value) ∨
            ∀ graph, call.request.outcome clientsDds call.env graph = ⟨graph, value, []⟩) := by
  obtain ⟨records, directory, reached, answers, returned⟩ :=
    calls_implement_directory racingRun_runs (CallSystem.started_initial _ _)
  exact ⟨records, directory, reached, answers (by decide), returned⟩

end Ros2Graph
