import Ros2Graph.Registry.InspectionEffects

/-! The course of an inspection, read off the endpoints that the node has when
the inspection starts and the entities that the enumeration calls answer. Only
the room left for endpoints can cut it short. -/

set_option autoImplicit false

namespace Ros2Graph

open Foundation

namespace Visit

def isReader : Visit → Bool
  | .reader _ => true
  | _ => false

def readsTopic (dds : Dds) (topicName : CString) : Visit → Bool
  | .reader dr => dds.readerTopicName dr == topicName
  | _ => false

def newWriterOn (dds : Dds) (endpoints : List GraphEndpoint) (topicName : CString) :
    Visit → Bool
  | .writer dw =>
      dds.writerTopicName dw == topicName && !endpoints.any (GraphEndpoint.holdsWriter dw)
  | _ => false

end Visit

/-- What the visit comes to when the earlier ones have all been gone through. -/
def plannedAction (dds : Dds) (endpoints : List GraphEndpoint) (earlier : List Visit) :
    Visit → Action
  | .failed => .refuse
  | .writer dw =>
      let topicName := dds.writerTopicName dw
      if endpoints.any (GraphEndpoint.holdsWriter dw) || earlier.contains (.writer dw) then .pass
      else if detectEndpointType topicName true == .unknown then .pass
      else if !isServiceTopic topicName then .register
      else
        match locate (GraphEndpoint.readsTopic dds topicName) endpoints with
        | none => .register
        | some found =>
            if found.2.ddsWriter.isSome ||
              earlier.any (Visit.newWriterOn dds endpoints topicName) then .refuse
            else .attach
  | .reader dr =>
      let topicName := dds.readerTopicName dr
      if endpoints.any (GraphEndpoint.holdsReader dr) || earlier.contains (.reader dr) then .pass
      else if detectEndpointType topicName false == .unknown then .pass
      else if isServiceTopic topicName && (endpoints.any (GraphEndpoint.readsTopic dds topicName) ||
        earlier.any (Visit.readsTopic dds topicName)) then .refuse
      else .register

def plannedActions (dds : Dds) (endpoints : List GraphEndpoint) :
    List Visit → List Visit → List Action
  | _, [] => []
  | earlier, visit :: rest =>
      plannedAction dds endpoints earlier visit ::
        plannedActions dds endpoints (earlier ++ [visit]) rest

namespace Action

/-- After this many registrations, the loop goes on past the action. -/
def proceeds (room : Nat → Bool) (registered : Nat) : Action → Bool
  | .pass => true
  | .register => room registered
  | .attach => decide (0 < registered)
  | .refuse => false

def registrations : Action → Nat
  | .register => 1
  | _ => 0

end Action

structure PlanOutcome where
  completed : Bool
  registered : Nat
  attached : Bool
  deriving DecidableEq, Repr

def PlanOutcome.changed (outcome : PlanOutcome) : Bool :=
  decide (0 < outcome.registered) || outcome.attached

/-- Takes the actions in turn; `room` says whether there is room for one more
endpoint after a number of registrations. -/
def followPlan (room : Nat → Bool) : Nat → List Action → PlanOutcome
  | registered, [] => ⟨true, registered, false⟩
  | registered, action :: rest =>
      if action.proceeds room registered then
        let outcome := followPlan room (registered + action.registrations) rest
        { outcome with attached := action == .attach || outcome.attached }
      else ⟨false, registered, action == .attach⟩

theorem followPlan_attached {room : Nat → Bool} {registered : Nat} {actions : List Action}
    (attached : (followPlan room registered actions).attached = true) : .attach ∈ actions := by
  induction actions generalizing registered with
  | nil => cases attached
  | cons action rest ih =>
      simp only [followPlan] at attached
      split at attached
      · rcases Bool.or_eq_true_iff.mp attached with here | later
        · exact beq_iff_eq.mp here ▸ List.mem_cons_self
        · exact List.mem_cons_of_mem _ (ih later)
      · exact beq_iff_eq.mp attached ▸ List.mem_cons_self

/-- Nothing is ever attached to a node that starts without endpoints. -/
theorem plannedActions_nil_attach (dds : Dds) (earlier visits : List Visit) :
    .attach ∉ plannedActions dds [] earlier visits := by
  induction visits generalizing earlier with
  | nil => simp [plannedActions]
  | cons visit rest ih =>
      rw [plannedActions, List.mem_cons, not_or]
      refine ⟨?_, ih _⟩
      cases visit with
      | failed => simp [plannedAction]
      | writer dw =>
          simp only [plannedAction, locate]
          split
          · simp
          · split
            · simp
            · split <;> simp
      | reader dr =>
          simp only [plannedAction]
          split
          · simp
          · split
            · simp
            · split <;> simp

namespace GraphNode

def handleSpace (node : GraphNode) : HandleSpace :=
  ⟨node.endpoints.map (·.handle), node.endpHandleNext⟩

/-- A handle is left and the pool grants a buffer after this many registrations. -/
def hasRoom (env : CallEnv) (pool : FastBufferPool) (node : GraphNode) (registered : Nat) : Bool :=
  (node.handleSpace.takeMany (registered + 1)).isSome &&
    env.endpointBuffer (pool.outstanding + registered)

theorem hasRoom_of_few {env : CallEnv} {pool : FastBufferPool} {node : GraphNode}
    {registered : Nat} (few : node.endpoints.length + registered + 1 < intMax)
    (granted : env.endpointBuffer (pool.outstanding + registered) = true) :
    node.hasRoom env pool registered = true := by
  have handles : (node.handleSpace.takeMany (registered + 1)).isSome = true := by
    apply HandleSpace.takeMany_isSome
    rw [handleSpace, List.length_map]
    exact few
  rw [hasRoom, handles, granted]
  rfl

theorem handleSpace_take (node : GraphNode) :
    node.handleSpace.take = node.nextEndpointHandle.1.map fun handle =>
      ⟨node.endpoints.map (·.handle) ++ [handle], node.nextEndpointHandle.2.endpHandleNext⟩ := by
  have same : (fun handle => node.handleSpace.live.contains handle) =
      fun handle => (node.lookupLocalEndpointByHandle handle).isSome := by
    funext handle
    rw [Bool.eq_iff_iff, lookup_handle_isSome_iff]
    simp [handleSpace]
  unfold HandleSpace.take nextEndpointHandle
  rw [same]
  rfl

theorem registerEndpoint_isSome_iff {dds : Dds} {env : CallEnv} {pool : FastBufferPool}
    {node : GraphNode} {endpType : EndpointType} {ddsReader : Option DataReader}
    {ddsWriter : Option DataWriter} :
    (node.registerEndpoint dds env pool endpType ddsReader ddsWriter).2.2.isSome = true ↔
      node.Admits dds endpType ddsReader ddsWriter ∧ node.hasRoom env pool 0 = true := by
  by_cases admitted : node.Admits dds endpType ddsReader ddsWriter
  · have space : node.handleSpace.takeMany 1 = node.handleSpace.take := rfl
    rw [registerEndpoint_admitted admitted, hasRoom, space, handleSpace_take]
    cases node.nextEndpointHandle.1 with
    | none => simp
    | some handle =>
        cases env.endpointBuffer pool.outstanding <;> simp [admitted]
  · simp [registerEndpoint_refused admitted, admitted]

end GraphNode

def Graph.inspectionPlan (dds : Dds) (env : CallEnv) (graph : Graph) (node : GraphNode) :
    PlanOutcome :=
  followPlan (node.hasRoom env graph.endpointsPool) 0
    (plannedActions dds node.endpoints [] (env.enumeration.visits node.ddsParticipant))

section

variable {dds : Dds} {earlier : List Visit}

theorem plannedAction_writer_seen {endpoints : List GraphEndpoint} {dw : DataWriter}
    (seen : (endpoints.any (GraphEndpoint.holdsWriter dw) ||
      earlier.contains (.writer dw)) = true) :
    plannedAction dds endpoints earlier (.writer dw) = .pass := by
  simp only [plannedAction, seen, if_true]

theorem plannedAction_writer_foreign {endpoints : List GraphEndpoint} {dw : DataWriter}
    (foreign : detectEndpointType (dds.writerTopicName dw) true = .unknown) :
    plannedAction dds endpoints earlier (.writer dw) = .pass := by
  simp [plannedAction, foreign]

theorem plannedAction_reader_seen {endpoints : List GraphEndpoint} {dr : DataReader}
    (seen : (endpoints.any (GraphEndpoint.holdsReader dr) ||
      earlier.contains (.reader dr)) = true) :
    plannedAction dds endpoints earlier (.reader dr) = .pass := by
  simp only [plannedAction, seen, if_true]

theorem plannedAction_reader_foreign {endpoints : List GraphEndpoint} {dr : DataReader}
    (foreign : detectEndpointType (dds.readerTopicName dr) false = .unknown) :
    plannedAction dds endpoints earlier (.reader dr) = .pass := by
  simp [plannedAction, foreign]

/-- A new writer on a conforming topic: only an endpoint reading the topic
stands in the way of its registration. -/
theorem plannedAction_writer_new {endpoints : List GraphEndpoint} {dw : DataWriter}
    (unseen : (endpoints.any (GraphEndpoint.holdsWriter dw) ||
      earlier.contains (.writer dw)) = false)
    (conforming : detectEndpointType (dds.writerTopicName dw) true ≠ .unknown) :
    plannedAction dds endpoints earlier (.writer dw) =
      if isServiceTopic (dds.writerTopicName dw) then
        match locate (GraphEndpoint.readsTopic dds (dds.writerTopicName dw)) endpoints with
        | none => .register
        | some found =>
            if found.2.ddsWriter.isSome ||
              earlier.any (Visit.newWriterOn dds endpoints (dds.writerTopicName dw)) then .refuse
            else .attach
      else .register := by
  have known : (detectEndpointType (dds.writerTopicName dw) true == .unknown) = false := by
    simpa using conforming
  simp only [plannedAction, unseen, known, Bool.false_eq_true, if_false]
  cases isServiceTopic (dds.writerTopicName dw) <;> rfl

theorem plannedAction_reader_new {endpoints : List GraphEndpoint} {dr : DataReader}
    (unseen : (endpoints.any (GraphEndpoint.holdsReader dr) ||
      earlier.contains (.reader dr)) = false)
    (conforming : detectEndpointType (dds.readerTopicName dr) false ≠ .unknown) :
    plannedAction dds endpoints earlier (.reader dr) =
      if isServiceTopic (dds.readerTopicName dr) &&
        (endpoints.any (GraphEndpoint.readsTopic dds (dds.readerTopicName dr)) ||
          earlier.any (Visit.readsTopic dds (dds.readerTopicName dr))) then .refuse
      else .register := by
  have known : (detectEndpointType (dds.readerTopicName dr) false == .unknown) = false := by
    simpa using conforming
  simp only [plannedAction, unseen, known, Bool.false_eq_true, if_false]

theorem plannedAction_writer_pass {endpoints : List GraphEndpoint} {dw : DataWriter}
    (passes : plannedAction dds endpoints earlier (.writer dw) = .pass)
    (conforming : detectEndpointType (dds.writerTopicName dw) true ≠ .unknown) :
    (endpoints.any (GraphEndpoint.holdsWriter dw) || earlier.contains (.writer dw)) = true := by
  simp only [plannedAction] at passes
  split at passes
  · assumption
  · split at passes
    · next foreign => exact absurd (beq_iff_eq.mp foreign) conforming
    · split at passes
      · cases passes
      · split at passes
        · cases passes
        · split at passes <;> cases passes

theorem plannedAction_reader_pass {endpoints : List GraphEndpoint} {dr : DataReader}
    (passes : plannedAction dds endpoints earlier (.reader dr) = .pass)
    (conforming : detectEndpointType (dds.readerTopicName dr) false ≠ .unknown) :
    (endpoints.any (GraphEndpoint.holdsReader dr) || earlier.contains (.reader dr)) = true := by
  simp only [plannedAction] at passes
  split at passes
  · assumption
  · split at passes
    · next foreign => exact absurd (beq_iff_eq.mp foreign) conforming
    · split at passes <;> cases passes

end

structure RoomUsed (start : GraphNode) (startPool : FastBufferPool) (registered : Nat)
    (pool : FastBufferPool) (node : GraphNode) : Prop where
  handles : start.handleSpace.takeMany registered = some node.handleSpace
  outstanding : pool.outstanding = startPool.outstanding + registered

theorem RoomUsed.registration {dds : Dds} {env : CallEnv} {start node left : GraphNode}
    {startPool pool after : FastBufferPool} {registered : Nat}
    (used : RoomUsed start startPool registered pool node)
    {endpType : EndpointType} {ddsReader : Option DataReader} {ddsWriter : Option DataWriter}
    (admitted : node.Admits dds endpType ddsReader ddsWriter) {added : Option GraphEndpoint}
    (ran : node.registerEndpoint dds env pool endpType ddsReader ddsWriter =
      (after, left, added)) :
    added.isSome = start.hasRoom env startPool registered ∧
      ∀ endp, added = some endp →
        left.endpoints = node.endpoints ++ [endp] ∧
        endp = ⟨endp.handle, ddsReader, ddsWriter, endpType⟩ ∧ 0 ≤ endp.handle ∧
        RoomUsed start startPool (registered + 1) after left := by
  have space : start.handleSpace.takeMany (registered + 1) =
      node.nextEndpointHandle.1.map fun handle =>
        ⟨node.endpoints.map (·.handle) ++ [handle],
          node.nextEndpointHandle.2.endpHandleNext⟩ := by
    rw [← GraphNode.handleSpace_take]
    simp [HandleSpace.takeMany, used.handles]
  unfold GraphNode.hasRoom
  rw [space, ← used.outstanding]
  rw [GraphNode.registerEndpoint_admitted admitted] at ran
  cases found : node.nextEndpointHandle.1 with
  | none =>
      rw [found] at ran
      cases ran
      simp
  | some handle =>
      rw [found] at ran
      cases granted : env.endpointBuffer pool.outstanding with
      | false =>
          rw [granted] at ran
          cases ran
          simp
      | true =>
          rw [granted] at ran
          cases ran
          refine ⟨by simp, fun endp same => ?_⟩
          cases same
          refine ⟨rfl, rfl, (GraphNode.nextEndpointHandle_found found).1, ?_, ?_⟩
          · rw [space, found]
            simp [GraphNode.handleSpace, GraphNode.linkEndpoint]
            rfl
          · simp [used.outstanding]
            omega

end Ros2Graph
