import Ros2Graph.Foundation.Bounded
import Ros2Graph.Update.NoLostUpdate

/-! The permits of `sem_pinfo`, from the calls that queue an update to the updates. A call
queues one at most, and no update begins without one. -/

set_option autoImplicit false

namespace Ros2Graph

open Foundation SemEvent

namespace Graph

variable (dds : Dds) (env : CallEnv) (graph : Graph) (nodeHandle : NodeHandle)

/-! Each operation queues an update once, or not at all. -/

theorem registerLocalNode_once (nodeName nodeNamespace : Option CString)
    (ddsParticipant : Option DomainParticipant) :
    (graph.registerLocalNode dds env nodeName nodeNamespace ddsParticipant).events.count
      giveSemPinfo ≤ 1 := by
  unfold registerLocalNode
  dsimp only
  repeat' split
  all_goals simp

theorem inspectLocalNode_once :
    (graph.inspectLocalNode dds env nodeHandle).events.count giveSemPinfo ≤ 1 := by
  unfold inspectLocalNode
  repeat' split
  all_goals simp

theorem registerAndQueue_once (endpType : EndpointType) (ddsReader : Option DataReader)
    (ddsWriter : Option DataWriter) :
    (graph.registerAndQueue dds env nodeHandle endpType ddsReader ddsWriter).events.count
      giveSemPinfo ≤ 1 := by
  unfold registerAndQueue
  split <;> simp

theorem unregisterLocalEndpoint_once (endpReader : Option DataReader)
    (endpWriter : Option DataWriter) :
    (graph.unregisterLocalEndpoint nodeHandle endpReader endpWriter).events.count
      giveSemPinfo ≤ 1 := by
  unfold unregisterLocalEndpoint
  repeat' split
  all_goals simp

theorem unregisterLocalEndpointByHandle_once (endpHandle : EndpointHandle) :
    (graph.unregisterLocalEndpointByHandle nodeHandle endpHandle).events.count
      giveSemPinfo ≤ 1 := by
  unfold unregisterLocalEndpointByHandle
  repeat' split
  all_goals simp

end Graph

theorem Operation.perform_once (dds : Dds) (env : CallEnv) (graph : Graph)
    (operation : Operation) :
    (operation.perform dds env graph).events.count giveSemPinfo ≤ 1 := by
  cases operation with
  | registerLocalNode name space participant =>
      exact graph.registerLocalNode_once dds env name space participant
  | inspectLocalNode nodeHandle => exact graph.inspectLocalNode_once dds env nodeHandle
  | unregisterLocalNode nodeHandle =>
      simp only [perform, Graph.unregisterLocalNode]
      split <;> simp [Outcome.ofRetcode]
  | registerLocalSubscription nodeHandle reader =>
      cases reader with
      | none => exact Nat.zero_le 1
      | some reader => exact graph.registerAndQueue_once dds env nodeHandle _ _ _
  | registerLocalPublisher nodeHandle writer =>
      cases writer with
      | none => exact Nat.zero_le 1
      | some writer => exact graph.registerAndQueue_once dds env nodeHandle _ _ _
  | registerLocalClient nodeHandle reader writer
  | registerLocalService nodeHandle reader writer =>
      cases reader with
      | none => exact Nat.zero_le 1
      | some reader =>
          cases writer with
          | none => exact Nat.zero_le 1
          | some writer => exact graph.registerAndQueue_once dds env nodeHandle _ _ _
  | unregisterLocalSubscription nodeHandle reader =>
      cases reader with
      | none => exact Nat.zero_le 1
      | some reader => exact graph.unregisterLocalEndpoint_once nodeHandle _ _
  | unregisterLocalPublisher nodeHandle writer =>
      cases writer with
      | none => exact Nat.zero_le 1
      | some writer => exact graph.unregisterLocalEndpoint_once nodeHandle _ _
  | unregisterLocalClient nodeHandle reader writer
  | unregisterLocalService nodeHandle reader writer =>
      cases reader with
      | none => exact Nat.zero_le 1
      | some reader =>
          cases writer with
          | none => exact Nat.zero_le 1
          | some writer => exact graph.unregisterLocalEndpoint_once nodeHandle _ _
  | unregisterLocalSubscriptionByHandle nodeHandle endpHandle
  | unregisterLocalPublisherByHandle nodeHandle endpHandle
  | unregisterLocalClientByHandle nodeHandle endpHandle
  | unregisterLocalServiceByHandle nodeHandle endpHandle =>
      exact graph.unregisterLocalEndpointByHandle_once nodeHandle endpHandle

namespace MutexHolder

/-- The permits that the call in `mutex_self` is still going to give. -/
def permits : MutexHolder → Nat
  | .leaving events => events.count giveSemPinfo
  | _ => 0

end MutexHolder

/-- The step takes the registry for an update. -/
def Step.beginsUpdate {Answers : Type} : Step Answers → Bool
  | .lockGather => true
  | _ => false

namespace GraphSystem

variable {Sample Answers : Type}

/-- The update thread has taken a permit, and not begun the update that it is for. -/
def permitInHand (sys : GraphSystem Sample) : Bool :=
  match sys.pc with
  | .retest => sys.takeRc == .ok
  | .drain | .lockGather => true
  | _ => false

/-- Every permit that there is for updates to come. -/
def permits (sys : GraphSystem Sample) : Nat :=
  sys.permitInHand.toNat + sys.semPinfo + sys.mutexSelf.permits

/-- The step is the work of a call that queues an update, or tells the thread to stop. -/
def queues (dds : Dds) (sys : GraphSystem Sample) : Step Answers → Bool
  | .perform env operation =>
      (operation.perform dds env sys.graph).events.contains giveSemPinfo
  | .giveToStop => true
  | _ => false

/-- No update is under way, and none has published anything. -/
structure Unpublished (sys : GraphSystem Sample) : Prop where
  published : sys.published = []
  outside : ¬ (sys.pc matches .gather | .unlockGather | .pick | .lockConvert | .convert
    | .unlockConvert | .unlockFailed | .publish | .updated)

end GraphSystem

section

variable {Sample Answers : Type} {dds : Dds} {convert : ConvertToSampleFn Sample Answers}
  {sys following : GraphSystem Sample} {step : Step Answers}

open GraphSystem

/-- What a step does to the permits, but for those of the call in `mutex_self`. -/
theorem permits_step {next : GraphSystem Sample} {begins gives : Bool}
    (holder : next.mutexSelf.permits ≤ sys.mutexSelf.permits)
    (own : begins.toNat + next.permitInHand.toNat + next.semPinfo ≤
      sys.permitInHand.toNat + sys.semPinfo + gives.toNat) :
    begins.toNat + next.permits ≤ sys.permits + gives.toNat := by
  unfold GraphSystem.permits
  omega

theorem StepEffect.permits (effect : StepEffect dds convert sys step following) :
    step.beginsUpdate.toNat + following.permits ≤ sys.permits + (sys.queues dds step).toNat := by
  cases effect with
  | @performed env operation rest entered ran =>
      have once := operation.perform_once dds env sys.graph
      have queued : rest.count giveSemPinfo ≤ (rest.contains giveSemPinfo).toNat := by
        rw [ran] at once
        cases among : rest.contains giveSemPinfo with
        | false => simpa [List.count_eq_zero] using among
        | true => simpa using once
      have gives : sys.queues dds (.perform env operation : Step Answers) =
          rest.contains giveSemPinfo := by
        simp [queues, ran]
      rw [gives]
      simp only [GraphSystem.permits, permitInHand, Step.beginsUpdate, entered,
        MutexHolder.permits, Bool.toNat_false]
      omega
  | queued leaving =>
      simp only [GraphSystem.permits, permitInHand, Step.beginsUpdate, leaving,
        MutexHolder.permits, List.count_cons_self, Bool.toNat_false]
      omega
  | called mutex | left mutex =>
      refine permits_step ?_ (by simp [permitInHand, Step.beginsUpdate])
      simp [mutex, MutexHolder.permits]
  | pollLocked here mutex | gatherLocked here mutex | convertLocked here mutex =>
      refine permits_step ?_ (by simp [permitInHand, Step.beginsUpdate, here])
      simp [MutexHolder.permits]
  | pollUnlocked here | gatherUnlocked here | convertUnlocked here | failedUnlocked here =>
      refine permits_step ?_ (by simp [permitInHand, Step.beginsUpdate, here])
      simp [MutexHolder.permits]
  | toldToStop =>
      refine permits_step (Nat.le_refl _) ?_
      simp only [permitInHand, Step.beginsUpdate, queues, Bool.toNat_false, Bool.toNat_true]
      omega
  | permitTaken here permit | retaken here permit | drained here permit =>
      refine permits_step (Nat.le_refl _) ?_
      simp only [permitInHand, Step.beginsUpdate, here]
      simp
      omega
  | timedOut here =>
      have none : (SemaphoreStatus.timeout == SemaphoreStatus.ok) = false := rfl
      exact permits_step (Nat.le_refl _)
        (by simp [permitInHand, Step.beginsUpdate, here, none])
  | stopped here | pollDue here | nothingDue here =>
      refine permits_step (Nat.le_refl _) ?_
      simp only [permitInHand, Step.beginsUpdate, here, Bool.toNat_false]
      omega
  | updateDue here took =>
      exact permits_step (Nat.le_refl _) (by simp [permitInHand, Step.beginsUpdate, here, took])
  | flagCleared | joined =>
      exact permits_step (Nat.le_refl _) (by simp [permitInHand, Step.beginsUpdate])
  | loopEntered here | loopLeft here | inspected here | notRetaken here | drainedAll here
  | gathered here | gatherFailed here | another here | completed here | converted here
  | convertFailed here | written here | notWritten here | updateEnded here | exitGiven here =>
      exact permits_step (Nat.le_refl _) (by simp [permitInHand, Step.beginsUpdate, here])

theorem StepEffect.unpublished (effect : StepEffect dds convert sys step following)
    (unpublished : sys.Unpublished) (waits : step.beginsUpdate = false) :
    following.Unpublished := by
  obtain ⟨published, outside⟩ := unpublished
  cases effect with
  | gatherLocked => cases waits
  | _ => constructor <;> simp_all

/-- No spurious updates. In every run, each update that has begun had a permit of its own, and
so has each that is still to come: their number is that of the calls that have queued one, of
which each gives one permit, and of the end of the graph. Where nobody queues, nothing is
published, however often the thread wakes up and polls. -/
theorem updates_queued {visits : List (GraphSystem Sample × Step Answers)}
    (run : GraphSystem.Run dds convert visits sys) :
    visits.countP (·.2.beginsUpdate) + sys.permits ≤
        visits.countP (fun visit => visit.1.queues dds visit.2) ∧
      ((∀ visit ∈ visits, visit.1.queues dds visit.2 = false) → sys.published = []) := by
  have counted : visits.countP (·.2.beginsUpdate) + sys.permits ≤
      visits.countP fun visit => visit.1.queues dds visit.2 := by
    refine @Execution.counted _ _ _ _ sys visits _ (fun _ step => step.beginsUpdate) (queues dds) ?_
      (fun _ _ _ stepped => (Steps.effect stepped).permits) run
    rintro state ⟨graph, participants, pinfo, _, rfl⟩
    rfl
  refine ⟨counted, fun quiet => ?_⟩
  have nobody : visits.countP (fun visit => visit.1.queues dds visit.2) = 0 :=
    List.countP_eq_zero.mpr fun visit member => by simp [quiet visit member]
  have none : visits.countP (·.2.beginsUpdate) = 0 := by omega
  have never : Execution.Guarded (fun _ step => step.beginsUpdate = false) visits :=
    fun visit member => by simpa using List.countP_eq_zero.mp none visit member
  have held : sys.Unpublished := by
    refine Execution.invariant ?_ ?_ run never
    · rintro state ⟨graph, participants, pinfo, _, rfl⟩
      exact ⟨rfl, by simp [initial]⟩
    · exact fun _ _ _ held waits stepped => (Steps.effect stepped).unpublished held waits
  exact held.published

end

/-- The update of `firstUpdate` has used up the one permit. -/
theorem updates_queued_once : ∃ visits : List (GraphSystem (List NodeView) × Step Unit),
    GraphSystem.Run clientsDds (.reading fun _ nodes => nodes.map (·.view)) visits restedSystem ∧
      visits.countP (·.2.beginsUpdate) + restedSystem.permits ≤
        visits.countP fun visit => visit.1.queues clientsDds visit.2 := by
  obtain ⟨past, run, _⟩ := @GraphSystem.Run.ofReplay _ _ clientsDds
    (.reading fun _ nodes => nodes.map (·.view)) Duration.infinite [] firstUpdate (by decide +kernel)
  exact ⟨past, run, (updates_queued run).1⟩

end Ros2Graph
