import Ros2Graph.Directory.Samples
import Ros2Graph.Update.Recording

/-! What is published last is up to date: without polling, once the update thread waits and
no call has the mutex, the last sample of each participant advertises the directory. -/

set_option autoImplicit false

namespace Ros2Graph

open Foundation

section

variable {Sample Answers : Type}

namespace GraphSystem

variable {sys : GraphSystem Sample} {step : Step Answers}

def notifies (dds : Dds) (sys : GraphSystem Sample) : Step Answers → Bool
  | .perform _ (.unregisterLocalNode nodeHandle) =>
      (sys.graph.lookupLocalNodeByHandle nodeHandle).isNone
  | .perform env (.inspectLocalNode nodeHandle) =>
      (sys.graph.lookupLocalNodeByHandle nodeHandle).all fun listed =>
        let plan := sys.graph.inspectionPlan dds env listed.2
        plan.completed || !plan.changed
  | _ => true

theorem notifies_iff {dds : Dds} : sys.notifies dds step = true ↔ sys.Notifies dds step := by
  cases step with
  | perform env operation =>
      cases operation with
      | unregisterLocalNode nodeHandle =>
          simp [notifies, Notifies, Operation.RemovesNode, Operation.StopsHalfway]
      | inspectLocalNode nodeHandle =>
          rcases found : sys.graph.lookupLocalNodeByHandle nodeHandle with _ | ⟨ptr, node⟩
          · simp [notifies, Notifies, Operation.RemovesNode, Operation.StopsHalfway, found]
          · cases whole : (sys.graph.inspectionPlan dds env node).completed <;>
              simp [notifies, Notifies, Operation.RemovesNode, Operation.StopsHalfway, found,
                whole]
      | _ => simp [notifies, Notifies, Operation.RemovesNode, Operation.StopsHalfway]
  | _ => simp [notifies, Notifies]

def updateSucceeds (convert : ConvertToSampleFn Sample Answers) (sys : GraphSystem Sample) :
    Step Answers → Bool
  | .gather granted => (sys.graph.gatherDomainParticipants granted sys.participants).1 == .ok
  | .convert answers => (sys.converted convert answers).all (·.1 == .ok)
  | .publish retcode => retcode == .ok
  | _ => true

theorem updateSucceeds_iff {convert : ConvertToSampleFn Sample Answers} :
    sys.updateSucceeds convert step = true ↔ sys.UpdateSucceeds convert step := by
  cases step with
  | convert answers =>
      rcases ran : sys.converted convert answers with _ | ⟨retcode, pinfo⟩
      · simp [updateSucceeds, UpdateSucceeds, ran]
      · simp [updateSucceeds, UpdateSucceeds, ran]
  | _ => simp [updateSucceeds, UpdateSucceeds]

end GraphSystem

namespace CallSystem

/-- None of the whole steps that a step stands for keeps an update from coming about. -/
def KeepsUp (dds : Dds) (convert : ConvertToSampleFn Sample Answers) (sys : CallSystem Sample)
    (step : CallStep Answers) : Prop :=
  ∀ whole ∈ sys.wholeSteps step,
    sys.system.Notifies dds whole ∧ sys.system.UpdateSucceeds convert whole

instance (dds : Dds) (convert : ConvertToSampleFn Sample Answers) (sys : CallSystem Sample)
    (step : CallStep Answers) : Decidable (sys.KeepsUp dds convert step) :=
  decidable_of_iff (∀ whole ∈ sys.wholeSteps step,
      sys.system.notifies dds whole = true ∧ sys.system.updateSucceeds convert whole = true)
    (forall₂_congr fun _ _ =>
      and_congr GraphSystem.notifies_iff GraphSystem.updateSucceeds_iff)

end CallSystem

end

section

variable {Sample Answers : Type} {dds : Dds} {convert : ConvertToSampleFn Sample Answers}

namespace GraphSystem

variable {system next last : GraphSystem Sample} {step : Step Answers}

/-- A step beside a call that has the mutex does not see what the call is at. -/
theorem keepsUp_aside (stepped : system.Steps dds convert step next) (foreign : step.ofCall = false)
    (entered : system.mutexSelf = .entered) (excluded : system.Excluded)
    (keepsUp : system.Notifies dds step ∧ system.UpdateSucceeds convert step) (graph : Graph)
    (mutexSelf : MutexHolder) :
    GraphSystem.Notifies dds { system with graph, mutexSelf } step ∧
      GraphSystem.UpdateSucceeds convert { system with graph, mutexSelf } step := by
  have free := excluded.besideCall entered
  have enabled := stepped.1
  cases step with
  | perform => cases foreign
  | gather | convert =>
      simp only [GraphSystem.enabled, Bool.and_eq_true, beq_iff_eq] at enabled
      simp_all [ThreadPc.holdsMutex]
  | _ => exact keepsUp

theorem replay_guarded {guard : GraphSystem Sample → Step Answers → Prop}
    {steps : List (Step Answers)} (replayed : system.replay dds convert steps = some last)
    (shape : steps = [] ∨ (∃ one, steps = [one] ∧ guard system one) ∨
      ∃ one other, steps = [one, other] ∧ guard system one ∧
        guard (system.next dds convert one) other) :
    ∃ visits, RunFrom dds convert system visits last ∧ Execution.Guarded guard visits := by
  have begun : RunFrom dds convert system [] system := .start rfl
  rcases shape with rfl | ⟨one, rfl, first⟩ | ⟨one, other, rfl, first, second⟩
  · cases replayed
    exact ⟨[], begun, by simp [Execution.Guarded]⟩
  · obtain ⟨enabled, same⟩ := Option.ite_none_right_eq_some.mp replayed
    cases same
    exact ⟨_, begun.extend ⟨enabled, rfl⟩, by simpa [Execution.Guarded] using first⟩
  · obtain ⟨enabled, onwards⟩ := Option.ite_none_right_eq_some.mp replayed
    obtain ⟨also, same⟩ := Option.ite_none_right_eq_some.mp onwards
    cases same
    exact ⟨_, (begun.extend ⟨enabled, rfl⟩).extend ⟨also, rfl⟩,
      by simpa [Execution.Guarded] using ⟨first, second⟩⟩

end GraphSystem

section

open CallSystem

variable {start sys following : CallSystem Sample} {step : CallStep Answers}
  {past : List (CallSystem Sample × CallStep Answers)} {holder later : Option CallerId}

/-- The whole steps that a step stands for keep up as it does. -/
theorem HeldEffect.wholeRun (effect : HeldEffect dds convert sys holder step following later)
    (held : sys.Held dds holder) (keepsUp : sys.KeepsUp dds convert step) :
    ∃ visits, GraphSystem.RunFrom dds convert (sys.ahead holder) visits (following.ahead later) ∧
      Execution.Guarded (fun state step =>
        state.Notifies dds step ∧ state.UpdateSucceeds convert step) visits := by
  refine GraphSystem.replay_guarded (effect.simulated held) ?_
  cases effect with
  | invoked | answered => exact .inl rfl
  | @took caller call rest ongoing whole routine free within =>
      obtain ⟨request, env, begun⟩ := call
      dsimp only at routine
      subst routine
      cases request with
      | perform operation =>
          have steps : sys.wholeSteps (.advance caller : CallStep Answers) =
              [.enter, .perform env operation] := by simp [wholeSteps, ongoing]
          unfold KeepsUp at keepsUp
          rw [steps] at keepsUp
          exact .inr (.inr ⟨_, _, steps, keepsUp _ List.mem_cons_self,
            keepsUp _ (List.mem_cons_of_mem _ List.mem_cons_self)⟩)
      | _ => exact .inl (by simp [wholeSteps, ongoing])
  | @computed caller call rest graph ongoing advanced within =>
      obtain ⟨request, env, routine⟩ := call
      refine .inl ?_
      cases routine <;> cases request <;> simp_all [wholeSteps, Routine.advance]
  | @queued caller call rest ongoing routine | @gave caller call rest ongoing routine =>
      obtain ⟨request, env, begun⟩ := call
      dsimp only at routine
      subst routine
      cases request with
      | perform operation =>
          exact .inr (.inl ⟨.leave, by simp [wholeSteps, ongoing], trivial, trivial⟩)
      | _ => exact .inl (by simp [wholeSteps, ongoing])
  | @others _ step system foreign stepped =>
      have own := keepsUp step (List.mem_singleton_self step)
      refine .inr (.inl ⟨step, rfl, ?_⟩)
      cases holder with
      | none => exact own
      | some caller =>
          obtain ⟨call, ongoing, _⟩ := held.inside caller rfl
          rw [ahead_of ongoing]
          exact GraphSystem.keepsUp_aside stepped foreign (held.mutex.mpr rfl) held.thread own _ _

theorem CallSystem.RunFrom.whole (run : CallSystem.RunFrom dds convert start past sys)
    (initial : start.IsInitial)
    (keepsUp : Execution.Guarded (CallSystem.KeepsUp dds convert) past) :
    ∃ holder visits, sys.Held dds holder ∧
      GraphSystem.Run dds convert visits (sys.ahead holder) ∧
      Execution.Guarded (fun state step =>
        state.Notifies dds step ∧ state.UpdateSucceeds convert step) visits := by
  induction run with
  | start same =>
      subst same
      exact ⟨none, [], initial.held, .start initial.1, by simp [Execution.Guarded]⟩
  | extend run stepped ih =>
      obtain ⟨holder, visits, held, reached, quiet⟩ := ih keepsUp.init
      obtain ⟨later, effect⟩ := (Steps.effect stepped).refine held
      obtain ⟨onwards, further, silent⟩ := effect.wholeRun held keepsUp.last
      refine ⟨later, visits ++ onwards, effect.held held, reached.append further, ?_⟩
      intro visit member
      exact (List.mem_append.mp member).elim (quiet visit) (silent visit)

end

end

/-! What a conversion says of the graph does not depend on the handle counters. -/

section

variable {dds : Dds} {graph next : Graph} {directory : Directory}

theorem Directory.Describes.owns (describes : directory.Describes graph) {handle : NodeHandle}
    {node : NodeListing} (found : directory.nodes handle = some node) :
    graph.Owns node.ddsParticipant := by
  obtain ⟨listed, present, told⟩ := Agrees.right describes found
  exact ⟨listed, (keyed_mem present).1, told.ddsParticipant⟩

end

section

open CallSystem

variable {dds : Dds} {conversion : SampleConversion dds}
  {start sys : CallSystem conversion.Sample}
  {past : List (CallSystem conversion.Sample × CallStep conversion.Answers)}

/-- The sample is a conversion of a registry that lists these nodes. -/
def SampleConversion.MadeOf (conversion : SampleConversion dds) (listing : List GraphNode)
    (participant : DomainParticipant) (sample : conversion.Sample) : Prop :=
  ∃ graph : Graph, graph.Reachable dds ∧ graph.listing = listing ∧ ∃ answers before,
    conversion.convertToSample answers graph participant before = some (.ok, sample)

end

end Ros2Graph
